/-
Tables.

A table gives a value to some keys.  Two tables with the same values are equal, and a
change at one key is seen at that key only.
-/
namespace SessionAuth

/-- A finite or infinite assignment of values to keys. -/
@[ext] structure Table (κ ν : Type) where
  get? : κ → Option ν

namespace Table

variable {κ ν : Type} [DecidableEq κ]

/-- The table without values. -/
def empty : Table κ ν := ⟨fun _ => none⟩

instance : Inhabited (Table κ ν) := ⟨empty⟩

/-- The table with a value, or none, at one key. -/
def put (t : Table κ ν) (key : κ) (value : Option ν) : Table κ ν :=
  ⟨fun k => if k = key then value else t.get? k⟩

/-- The table with a value at one key. -/
def insert (t : Table κ ν) (key : κ) (value : ν) : Table κ ν := t.put key (some value)

/-- The table without a value at one key. -/
def erase (t : Table κ ν) (key : κ) : Table κ ν := t.put key none

/-- The table of a list of pairs; the first pair of a key counts. -/
def ofList (pairs : List (κ × ν)) : Table κ ν := ⟨fun k => pairs.lookup k⟩

omit [DecidableEq κ] in
@[simp] theorem get?_empty (key : κ) : (empty : Table κ ν).get? key = none := rfl

@[simp] theorem get?_put (t : Table κ ν) (key other : κ) (value : Option ν) :
    (t.put key value).get? other = if other = key then value else t.get? other := rfl

@[simp] theorem get?_insert (t : Table κ ν) (key other : κ) (value : ν) :
    (t.insert key value).get? other = if other = key then some value else t.get? other := rfl

@[simp] theorem get?_erase (t : Table κ ν) (key other : κ) :
    (t.erase key).get? other = if other = key then none else t.get? other := rfl

end Table

end SessionAuth
