/-
This file gives a renderer tools that can be run: image files in a storage, an installed
imaging library, lexers for three languages, and a reader and a renderer for the common
constructs of Markdown.
-/

import BookMarkup.Image.File
import BookMarkup.Listing.Language
import BookMarkup.Markdown.Plain
import BookMarkup.Tools

namespace BookMarkup

/-- The reader for documents with tables, tasks and footnotes. -/
def Markdown.Reader.ofDialect (dialect : Dialect) : Reader where
  blocks := Block.ofSource dialect
  inlines := Inline.ofSource

/-- What is installed where nothing but the imaging library is. -/
def Package.Environment.withImaging : Environment where
  distributions := [⟨"Pillow".toList, "13.0.0".toList⟩]
  modules := [("PIL".toList, .works)]

namespace Tools

/-- The tools of a renderer whose image files are those of a storage. -/
def ofStorage (storage : Storage) : Tools where
  openImage := Image.openIn storage
  installation := ⟨_, _, .dotted, .withImaging⟩
  lexers := .three
  reader := .ofDialect Markdown.documentDialect
  renderPlain := Plain.render

/-- The tools of a renderer that works in a directory with some files. -/
def ofFiles (files : List (Text × Entry)) : Tools :=
  ofStorage (.ofFiles "/book".toList files)

end Tools

end BookMarkup
