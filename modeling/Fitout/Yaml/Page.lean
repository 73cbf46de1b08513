import Fitout.Yaml.Cursor

/-!
# Pages of YAML texts

A text is taken up page by page, as many whole characters as fit into a page. A page with a
character that may not stand in a text cannot be read at all; so a text with such a character is
known up to the page where it stands, and whoever looks further fails. What comes before can still
be judged: a value of the wrong type there is found first.
-/

namespace Fitout.Yaml

/-- The size of a page in bytes of UTF-8. -/
def pageSize : Nat :=
  16384

/-- Splits a text after the characters that fit into some room, counted in bytes. -/
def splitPage : Nat → List Char → List Char × List Char
  | _, [] => ([], [])
  | room, c :: cs =>
    if c.utf8Size ≤ room then
      let (page, rest) := splitPage (room - c.utf8Size) cs
      (c :: page, rest)
    else ([], c :: cs)

/-- The pages of a text before the first that cannot be read. No page is empty, so the length of
the text bounds their number. -/
def readPages : Nat → List Char → List Char
  | 0, _ => []
  | bound + 1, cs =>
    let (page, rest) := splitPage pageSize cs
    if page.all isAllowed then page ++ readPages bound rest else []

/-- The cursor at the start of a text. -/
def Cursor.ofText (cs : List Char) : Cursor :=
  if cs.all isAllowed then { rest := unifyBreaks cs }
  else { rest := unifyBreaks (readPages cs.length cs), barred := true }

end Fitout.Yaml
