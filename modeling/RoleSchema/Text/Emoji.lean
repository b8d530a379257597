import RoleSchema.Text.Blank
import RoleSchema.Text.Case
import RoleSchema.Text.EmojiTable

/-!
# Emoji

In texts for a terminal a name between colons stands for an emoji. The name may end in `-emoji` or
`-text`, which asks for one of two ways to show it; a name that is not known stays as it is.

* `replaceEmoji_of_no_colon`: a text without colons stays as it is.
-/

namespace RoleSchema.Text

/-- Texts two by two. -/
def pairUp : List String → List (String × String)
  | name :: emoji :: rest => (name, emoji) :: pairUp rest
  | _ => []

/-- Names with the emoji they stand for. -/
def emojiNames : List (String × String) := emojiRows.flatMap fun row => pairUp (row.splitOn " ")

/-- What stands at the end of a name to ask for a way of showing, and the character that does. -/
def emojiVariants : List (String × Char) := [("-emoji", '\ufe0f'), ("-text", '\ufe0e')]

/-- A name without the variant at its end, and the character for that. -/
def splitVariant (name : List Char) : List Char × List Char :=
  match emojiVariants.find? fun v => v.1.toList.isSuffixOf name with
  | some v => (name.take (name.length - v.1.length), [v.2])
  | none => (name, [])

/-- The emoji that a name between colons stands for, in any case of letters. -/
def emojiOf? (name : List Char) : Option (List Char) :=
  let (name, variant) := splitVariant name
  (emojiNames.lookup (lower (String.ofList name))).map fun emoji => emoji.toList ++ variant

/-- The name between a colon that has been read and the next one. -/
def colonName? (cs : List Char) : Option (List Char) :=
  let name := cs.takeWhile fun c => c ≠ ':' && !isBlank c
  if cs[name.length]? = some ':' then some name else none

/-- A text with emoji in place of their names. -/
def replaceEmoji (cs : List Char) : List Char :=
  match cs with
  | [] => []
  | c :: rest =>
    match (if c = ':' then colonName? rest else none) with
    | some name =>
      (emojiOf? name).getD (':' :: name ++ [':']) ++ replaceEmoji (rest.drop (name.length + 1))
    | none => c :: replaceEmoji rest
termination_by cs.length
decreasing_by
  · simp only [List.length_drop, List.length_cons]; omega
  · simp

theorem replaceEmoji_of_no_colon {cs : List Char} (h : ':' ∉ cs) : replaceEmoji cs = cs := by
  induction cs with
  | nil => rw [replaceEmoji]
  | cons c rest ih =>
    have hc : ¬c = ':' := fun e => h (by simp [e])
    rw [replaceEmoji]
    simp [hc, ih fun m => h (by simp [m])]

end RoleSchema.Text
