import ViewAdapters.Document.Value

/-!
# Order of sets

The members of a set of numbers lie in slots, each as near as possible to the
one that its remainder names, and are written in the order of their slots. The
members of another set keep the order in which they were put in.

* `ordered_perm`: the members of a set are put in order, and none is lost.
-/

namespace ViewAdapters.Document.SetOrder

/-- Numbers that are equal modulo this one have the same key. -/
def modulus : Nat := twoTo 61 - 1

/-- The key of an infinite number. -/
def infinityKey : Nat := 314159

/-- A key with a sign. The key -1 is not used. -/
def signed (negative : Bool) (key : Nat) : Int :=
  if negative then (if key = 1 then -2 else -(key : Int)) else key

/-- The key of a number. A power of two and 61 powers more leave the same remainder. -/
def keyOf? : Value → Option Int
  | .bool b => some (if b then 1 else 0)
  | .int n => some (signed (n < 0) (n.natAbs % modulus))
  | .float x =>
    match x.view with
    | .finite negative m e => some (signed negative (m * twoTo (e % 61).toNat % modulus))
    | .infinite negative => some (signed negative infinityKey)
    | .notANumber => none
  | _ => none

/-- How many slots there are for a number of members. -/
def slotCount (members : Nat) : Nat :=
  if members ≤ 4 then 8 else twoTo ((2 * members).log2 + 1)

/-- How many slots are tried in a row if there are that many. -/
def rowLength : Nat := 10

/-- The first free slot from a slot on: those next to it are tried, and then those from a
slot on that `spread`, the part of the key that is left, has an influence on. -/
def freeSlot (isTaken : Nat → Bool) (count : Nat) : (fuel spread slot : Nat) → Nat
  | 0, _, slot => slot
  | fuel + 1, spread, slot =>
    let row := List.range (if slot + rowLength ≤ count then rowLength else 1)
    match row.find? fun d => !isTaken (slot + d) with
    | some d => slot + d
    | none => freeSlot isTaken count fuel (spread / 32) ((slot * 5 + 1 + spread / 32) % count)

/-- Puts a member with a key into a free slot. -/
def place (count : Nat) (slots : List (Nat × Value)) (member : Int × Value) :
    List (Nat × Value) :=
  let spread := (member.1 % (twoTo 64 : Int)).toNat
  let slot := freeSlot (fun s => slots.any fun e => e.1 == s) count (count + 64) spread
    (spread % count)
  (slot, member.2) :: slots

/-- Members with their keys in the order of their slots. -/
def bySlot (members : List (Int × Value)) : List Value :=
  ((members.foldl (place (slotCount members.length)) []).mergeSort fun a b => a.1 ≤ b.1).map
    Prod.snd

def ordered (items : List Value) : List Value :=
  match items.mapM keyOf? with
  | some keys => if keys.length = items.length then bySlot (keys.zip items) else items
  | none => items

theorem foldl_place_perm (count : Nat) (members : List (Int × Value)) (slots : List (Nat × Value)) :
    ((members.foldl (place count) slots).map Prod.snd).Perm
      (members.map Prod.snd ++ slots.map Prod.snd) := by
  induction members generalizing slots with
  | nil => simp
  | cons m members ih =>
    refine (ih (place count slots m)).trans ?_
    simp only [place, List.map_cons]
    exact List.perm_middle

theorem ordered_perm (items : List Value) : (ordered items).Perm items := by
  unfold ordered
  split
  · split
    · rename_i keys _ hLength
      refine ((List.mergeSort_perm _ _).map Prod.snd).trans ?_
      refine (foldl_place_perm _ _ _).trans ?_
      simp [List.map_snd_zip, hLength]
    · exact .refl _
  · exact .refl _

end ViewAdapters.Document.SetOrder
