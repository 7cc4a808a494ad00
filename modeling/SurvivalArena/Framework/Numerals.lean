import Mathlib

/-!
# Facts that literals rest on

A literal of a number type carries the proof that it is large enough, and a literal of a
finite type the proof that the type has elements.  Definitions of several modules share
these proofs.
-/

instance Nat.atLeastTwo_two : Nat.AtLeastTwo 2 := inferInstance
instance Nat.atLeastTwo_three : Nat.AtLeastTwo 3 := inferInstance
instance Nat.atLeastTwo_four : Nat.AtLeastTwo 4 := inferInstance
instance Nat.atLeastTwo_five : Nat.AtLeastTwo 5 := inferInstance
instance Nat.atLeastTwo_six : Nat.AtLeastTwo 6 := inferInstance
instance Nat.atLeastTwo_eight : Nat.AtLeastTwo 8 := inferInstance
instance Nat.atLeastTwo_nine : Nat.AtLeastTwo 9 := inferInstance
instance Nat.atLeastTwo_ten : Nat.AtLeastTwo 10 := inferInstance
instance Nat.atLeastTwo_twentyFive : Nat.AtLeastTwo 25 := inferInstance
instance Nat.atLeastTwo_hundred : Nat.AtLeastTwo 100 := inferInstance
instance Nat.atLeastTwo_thousand : Nat.AtLeastTwo 1000 := inferInstance

instance Nat.neZero_three : NeZero 3 := inferInstance
instance Nat.neZero_four : NeZero 4 := inferInstance
instance Nat.neZero_five : NeZero 5 := inferInstance

instance UInt32.lawfulBEq : LawfulBEq UInt32 := inferInstance
instance Nat.lawfulBEq_prod : LawfulBEq (Nat × Nat) := inferInstance
