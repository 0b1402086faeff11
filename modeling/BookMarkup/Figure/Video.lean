/-
This file recognises the URLs of videos and finds the identifier of the video in
them. The identifier follows the last marker on the first line of the URL and ends at
a fragment, a parameter or a query.
-/

import BookMarkup.Text.Scan
import BookMarkup.Text.Word

namespace BookMarkup

namespace Video

/-- The hosts whose pages are shown as embedded players. -/
def hosts : List Text :=
  ["youtube.com".toList, "youtu.be".toList]

/-- Whether a URL names a video host. -/
def isEmbeddable (url : Text) : Bool :=
  hosts.any fun host => Text.occursIn host url

/-- The pattern of what stands in front of a video identifier: the path of a short link, of a
player or of a user's page, or the parameter of a watch page. -/
def markerPattern : Text.Pattern
  | 'y' :: rest => if "outu.be/".toList.isPrefixOf rest then 9 else 0
  | 'v' :: '/' :: _ => 2
  | 'u' :: '/' :: name :: '/' :: _ => if isWord name then 4 else 0
  | 'e' :: rest => if "mbed/".toList.isPrefixOf rest then 6 else 0
  | 'w' :: rest => if "atch?v=".toList.isPrefixOf rest then 8 else 0
  | _ => 0

/-- A character that an identifier may hold. -/
def isIdChar (c : Char) : Bool :=
  c != '#' && c != '&' && c != '?'

/-- The identifier of a video: what follows the last marker that starts on the first line. -/
def id? : Text → Option Text
  | [] => none
  | head :: rest =>
    if head = '\n' then none
    else
      match id? rest with
      | some found => some found
      | none =>
        match markerPattern (head :: rest) with
        | 0 => none
        | taken => some (((head :: rest).drop taken).takeWhile isIdChar)

end Video

end BookMarkup
