/-
# Doc comments

Descriptions come from documents and may say anything. Inside a comment the comment's end sign is
broken up by a backslash, and a description of several lines gets a line of the comment for each.
-/

import TypedClient.Text.Lines

namespace TypedClient.Comment

/-- A text in which the end sign of a comment is broken up. -/
def guard (text : String) : String :=
  Text.replaceAll "*/" "*\\/" text

/-- A description without blanks around it, unless nothing is left. -/
def content? (description? : Option String) : Option String :=
  (description?.map Text.trim).filter (!·.isEmpty)

/-- The lines of a text, each without the blanks at its end. -/
def trimmedLines (text : String) : List String :=
  (Text.lines text).map Text.trimEnd

/-- A line of a comment of several lines. -/
def starLine (indent line : String) : String :=
  indent ++ " * " ++ line ++ "\n"

/-- A doc comment in front of an indented declaration; there is none without a description. -/
def block (indent : String) (description? : Option String) : String :=
  match content? description? with
  | none => ""
  | some content =>
    let text := guard content
    if text.toList.contains '\n' then
      indent ++ "/**\n" ++ String.join ((trimmedLines text).map (starLine indent)) ++
        indent ++ " */\n"
    else indent ++ "/** " ++ text ++ " */\n"

end TypedClient.Comment
