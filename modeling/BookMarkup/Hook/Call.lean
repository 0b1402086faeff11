/-
This file lists the calls that a parser makes to a renderer, one for each construct,
and runs them one after the other on the state of one renderer.
-/

import BookMarkup.Hook.Image

namespace BookMarkup

/-- A call to a hook with its arguments. -/
inductive Call where
  | heading (content : Text) (level : Int)
  | paragraph (content : Text)
  | quote (content : Text)
  | code (source : Text) (info : Option Text)
  | html (source : Text)
  | rule
  | list (content : Text) (ordered : Bool) (start : Option Int)
  | listItem (content : Text)
  | taskItem (content : Text) (checked : Bool)
  | checkbox (checked : Bool)
  | table (content : Text)
  | tableHead (content : Text)
  | tableBody (content : Text)
  | tableRow (content : Text)
  | tableCell (content : Text) (align : Option Text) (head : Bool)
  | text (source : Text)
  | emphasis (content : Text)
  | strong (content : Text)
  | strikethrough (content : Text)
  | codeSpan (source : Text)
  | lineBreak
  | inlineHtml (source : Text)
  | link (content url : Text) (title : Option Text)
  | image (content url : Text) (title : Option Text)
  /-- The end of a document with its content. -/
  | finalize (content : Text)
  deriving DecidableEq, Repr

namespace Call

/-- A hook that cannot fail, as a run. -/
def sure (hook : RenderState → Text × RenderState) : Render Text := fun state =>
  let (markup, after) := hook state
  ⟨.ok markup, [], after⟩

/-- Runs a call. -/
def run (setting : Setting) : Call → Render Text
  | .heading content level => sure fun state => Hook.heading state content level
  | .paragraph content => sure fun state => Hook.paragraph state content
  | .quote content => sure fun state => Hook.quote state content
  | .code source info => sure fun state =>
    Hook.code state setting.tools.lexers setting.options.tabReplacement source info
  | .html source => sure fun state => Hook.html state source
  | .rule => sure fun state => Hook.rule state setting.options.xhtml
  | .list content ordered start => sure fun state => Hook.list state content ordered start
  | .listItem content => sure fun state => Hook.listItem state content
  | .taskItem content checked => sure fun state => Hook.taskItem state setting.options.xhtml content checked
  | .checkbox checked => sure fun state => Hook.checkbox state setting.options.xhtml checked
  | .table content => sure fun state => Hook.table state content
  | .tableHead content => sure fun state => (Hook.tableHead content, state)
  | .tableBody content => sure fun state => (Hook.tableBody content, state)
  | .tableRow content => sure fun state => (Hook.tableRow content, state)
  | .tableCell content align head => sure fun state => (Hook.tableCell content align head, state)
  | .text source => sure fun state => Hook.text state source
  | .emphasis content => sure fun state => Hook.emphasis state content
  | .strong content => sure fun state => Hook.strong state content
  | .strikethrough content => sure fun state => Hook.strikethrough state content
  | .codeSpan source => sure fun state => Hook.codeSpan state source
  | .lineBreak => sure fun state => Hook.lineBreak state setting.options.xhtml
  | .inlineHtml source => sure fun state => Hook.inlineHtml state source
  | .link content url title => Hook.link setting.options content url title
  | .image content url title => Hook.image setting content url title
  | .finalize content => sure fun state => state.finalize content

/-- Runs calls one after the other; a call that fails does not end the run. The result is the
outcome of each call and the state at the end. -/
def runAll (setting : Setting) : List Call → RenderState → List (Outcome Text) × RenderState
  | [], state => ([], state)
  | first :: others, state =>
    let outcome := first.run setting state
    let (outcomes, after) := runAll setting others outcome.state
    (outcome :: outcomes, after)

end Call

end BookMarkup
