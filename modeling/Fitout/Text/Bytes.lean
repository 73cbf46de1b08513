/-!
# Texts as bytes

Names of files are bytes and need not be text. Bytes that are UTF-8 are shown as the text they
stand for. In any others, each run of bytes that can begin no character, or begins one and breaks
off, is shown as a replacement character.
-/

namespace Fitout.Text

/-- The bytes of a text in UTF-8. -/
def bytes (s : String) : List UInt8 :=
  s.toUTF8.data.toList

/-- The text whose bytes these are. -/
def ofBytes? (bs : List UInt8) : Option String :=
  String.fromUTF8? ⟨bs.toArray⟩

theorem ofBytes?_bytes (s : String) : ofBytes? (bytes s) = some s := by
  have hvalid : s.toUTF8.IsValidUTF8 := s.isValidUTF8
  rw [ofBytes?, bytes, Array.toArray_toList, String.fromUTF8?, dif_pos hvalid]
  rfl

theorem ofBytes?_eq_some_iff {bs : List UInt8} {s : String} :
    ofBytes? bs = some s ↔ bytes s = bs := by
  constructor
  · intro h
    rw [ofBytes?, String.fromUTF8?] at h
    split at h
    · cases h
      rfl
    · cases h
  · rintro rfl
    exact ofBytes?_bytes s

/-! ### Bytes that are no text -/

/-- The replacement character. -/
def replacement : Char :=
  '\uFFFD'

/-- The number of bytes of a character that starts with a byte; 1 if none does. -/
def width (first : UInt8) : Nat :=
  if first < 0xC2 then 1
  else if first < 0xE0 then 2
  else if first < 0xF0 then 3
  else if first < 0xF5 then 4
  else 1

/-- Whether a byte may stand in a character behind the second one. -/
def isContinuation (b : UInt8) : Bool :=
  0x80 ≤ b && b ≤ 0xBF

/-- Whether a byte may be the second one of a character. -/
def isSecond (first second : UInt8) : Bool :=
  if first = 0xE0 then 0xA0 ≤ second && second ≤ 0xBF
  else if first = 0xED then 0x80 ≤ second && second ≤ 0x9F
  else if first = 0xF0 then 0x90 ≤ second && second ≤ 0xBF
  else if first = 0xF4 then 0x80 ≤ second && second ≤ 0x8F
  else isContinuation second

/-- The number of bytes that are shown together: those of a character, or of a part of one that
breaks off. -/
def frontSize (first : UInt8) : List UInt8 → Nat
  | [] => 1
  | second :: rest =>
    if 1 < width first && isSecond first second then
      2 + ((rest.take (width first - 2)).takeWhile isContinuation).length
    else 1

/-- The characters that bytes are shown as, the first few of which were shown before. -/
def shownChars : Nat → List UInt8 → List Char
  | _, [] => []
  | shown + 1, _ :: rest => shownChars shown rest
  | 0, first :: rest =>
    let size := frontSize first rest
    let front := match ofBytes? ((first :: rest).take size) with
      | some s => s.toList
      | none => [replacement]
    front ++ shownChars (size - 1) rest

/-- What bytes are shown as. -/
def shown (bs : List UInt8) : String :=
  match ofBytes? bs with
  | some s => s
  | none => String.ofList (shownChars 0 bs)

/-- A text is shown as it is. -/
@[simp]
theorem shown_bytes (s : String) : shown (bytes s) = s := by
  rw [shown, ofBytes?_bytes]

example : shown [0x61, 0xE2, 0x82, 0x62, 0xFF] = "a\uFFFDb\uFFFD" := by decide

end Fitout.Text
