import RoleSchema.Text.CaseTable
import RoleSchema.Text.Ranges

/-!
# Small and capital letters

`lower` is the full Unicode mapping to small letters: letter by letter, but the dotted capital I
becomes two characters, and a capital sigma becomes the final sigma at the end of a word, that is
after a letter with case and before none, marks between them being passed over.

* `lowerChars_ascii`: on a text of ASCII characters the mapping is the one letter by letter.
-/

namespace RoleSchema.Text

/-- The letters that have case and are not passed over. -/
def isCased (c : Char) : Bool := inRanges casedRanges c.toNat

/-- The characters that are passed over between a sigma and its neighbour. -/
def isPassedOver (c : Char) : Bool := inRanges passedOverRanges c.toNat

/-- Whether the nearest character that is not passed over has case. -/
def meetsCased (cs : List Char) : Bool :=
  match cs.dropWhile isPassedOver with
  | [] => false
  | c :: _ => isCased c

/-- The small letter of one character, itself where it has none. -/
def lowerChar (c : Char) : Char :=
  if c.toNat < 0x80 then c.toLower
  else
    match lowerRuns.find? fun r =>
        r.1 ≤ c.toNat && c.toNat ≤ r.2.1 && (c.toNat - r.1) % r.2.2.1 == 0 with
    | some r => Char.ofNat ((c.toNat : Int) + r.2.2.2).toNat
    | none => c

/-- The small form of a text, given the characters before it from the nearest on. -/
def lowerAfter (before : List Char) : List Char → List Char
  | [] => []
  | c :: rest =>
    let small :=
      if c = 'Σ' then
        if meetsCased before && !meetsCased rest then ['ς'] else ['σ']
      else if c = 'İ' then ['i', '\u0307']
      else [lowerChar c]
    small ++ lowerAfter (c :: before) rest

/-- The small form of a sequence of characters. -/
def lowerChars (cs : List Char) : List Char := lowerAfter [] cs

/-- The small form of a text. -/
def lower (s : String) : String := String.ofList (lowerChars s.toList)

/-- The capital of a letter as far as it can be an ASCII letter: the small letters of ASCII, the
dotless i and the long s. -/
def capital (c : Char) : Char :=
  if c = 'ı' then 'I' else if c = 'ſ' then 'S' else c.toUpper

theorem lowerChar_of_ascii {c : Char} (h : c.toNat < 0x80) : lowerChar c = c.toLower := by
  simp [lowerChar, h]

theorem lowerAfter_ascii (before : List Char) {cs : List Char}
    (h : ∀ c ∈ cs, c.toNat < 0x80) : lowerAfter before cs = cs.map Char.toLower := by
  induction cs generalizing before with
  | nil => rfl
  | cons c rest ih =>
    have hc : c.toNat < 0x80 := h c (by simp)
    have hs : c ≠ 'Σ' := by rintro rfl; exact absurd hc (by decide)
    have hi : c ≠ 'İ' := by rintro rfl; exact absurd hc (by decide)
    have hr : ∀ d ∈ rest, d.toNat < 0x80 := fun d hd => h d (by simp [hd])
    simp [lowerAfter, hs, hi, lowerChar_of_ascii hc, ih _ hr]

theorem lowerChars_ascii {cs : List Char} (h : ∀ c ∈ cs, c.toNat < 0x80) :
    lowerChars cs = cs.map Char.toLower :=
  lowerAfter_ascii [] h

end RoleSchema.Text
