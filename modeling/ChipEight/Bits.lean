/-!
# Bits of integers

An integer is read as an endless row of bits, the bit of weight one first. The bits of a natural
number are those of its binary numeral, followed by zeros. The bits of a negative integer are the
inverted bits of the natural number that is one less than its magnitude, so that they end in ones.

Two integers are combined bit by bit. Each combination is computed on natural numbers, one case
for each pair of signs. The bits of a conjunction are those that both integers have.
-/

namespace ChipEight.Bits

/-- Whether an integer has a one at a position. -/
def isSet (number : Int) (position : Nat) : Bool :=
  match number with
  | .ofNat bits => bits.testBit position
  | .negSucc bits => !bits.testBit position

/-- The bits of a natural number that are not bits of another one. -/
def without (bits others : Nat) : Nat := bits ^^^ (bits &&& others)

/-- The bits that one of two integers has, or both. -/
protected def or : Int → Int → Int
  | .ofNat first, .ofNat second => .ofNat (first ||| second)
  | .ofNat first, .negSucc second => .negSucc (without second first)
  | .negSucc first, .ofNat second => .negSucc (without first second)
  | .negSucc first, .negSucc second => .negSucc (first &&& second)

/-- The bits that both of two integers have. -/
protected def and : Int → Int → Int
  | .ofNat first, .ofNat second => .ofNat (first &&& second)
  | .ofNat first, .negSucc second => .ofNat (without first second)
  | .negSucc first, .ofNat second => .ofNat (without second first)
  | .negSucc first, .negSucc second => .negSucc (first ||| second)

/-- The bits that exactly one of two integers has. -/
protected def xor : Int → Int → Int
  | .ofNat first, .ofNat second => .ofNat (first ^^^ second)
  | .ofNat first, .negSucc second => .negSucc (first ^^^ second)
  | .negSucc first, .ofNat second => .negSucc (first ^^^ second)
  | .negSucc first, .negSucc second => .ofNat (first ^^^ second)

/-- A bit is left over when it is there and not among the others. -/
theorem testBit_without (bits others position : Nat) :
    (without bits others).testBit position =
      (bits.testBit position && !others.testBit position) := by
  simp only [without, Nat.testBit_xor, Nat.testBit_and]
  cases bits.testBit position <;> cases others.testBit position <;> rfl

/-- The bits of a conjunction. -/
theorem isSet_and (first second : Int) (position : Nat) :
    isSet (Bits.and first second) position =
      (isSet first position && isSet second position) := by
  cases first <;> cases second <;> rename_i left right <;>
    simp only [Bits.and, isSet, Nat.testBit_or, Nat.testBit_and, testBit_without] <;>
    cases left.testBit position <;> cases right.testBit position <;> rfl

end ChipEight.Bits
