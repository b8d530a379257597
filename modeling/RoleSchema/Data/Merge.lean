import RoleSchema.Data.Value

/-!
# Merging of mappings

Merging one mapping into another binds every key of the second in the first; where both hold a
mapping under a key, these are merged in turn. Keys that begin with `_` are remarks and are passed
over. A key that is no text stops the merge; what has been bound before stays.
-/

namespace RoleSchema

/-- What a merge has come to. -/
structure Merge where
  entries : Entries
  /-- The keys that were bound, with their values, in order. -/
  bound : List (Value × Value)
  /-- The key that stopped the merge, being no text. -/
  stopped : Option Value
  deriving Repr

/-- Whether a key is a remark. -/
def Value.isRemark : Value → Bool
  | .text s => s.toList.head? == some '_'
  | .points ns => ns.head? == some '_'.toNat
  | _ => false

/-- Merges the entries of one mapping into another. -/
def Entries.merge (base : Entries) : List (Value × Value) → Merge
  | [] => ⟨base, [], none⟩
  | (key, value) :: rest =>
    if !key.isText then ⟨base, [], some key⟩
    else if key.isRemark then merge base rest
    else
      match base.get? key, value with
      | some (.mapping sub), .mapping layer =>
        let inner := merge sub layer
        let base := base.put key (.mapping inner.entries)
        if inner.stopped.isSome then ⟨base, inner.bound, inner.stopped⟩
        else
          let others := merge base rest
          ⟨others.entries, inner.bound ++ others.bound, others.stopped⟩
      | _, _ =>
        let others := merge (base.put key value) rest
        ⟨others.entries, (key, value) :: others.bound, others.stopped⟩

/-- The line that tells of a key that was bound to a value with some text. -/
def overrideLine (key : Value) (text : String) : String :=
  "Override: " ++ key.inMessage ++ " = " ++ text

end RoleSchema
