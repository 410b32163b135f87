/-!
# Random bytes

A source is an endless sequence of bytes together with the number of those that have been drawn.
Drawing takes the next byte of the sequence. A finite supply makes a sequence by being repeated,
and an empty supply gives zeros.
-/

namespace ChipEight

/-- An endless sequence of bytes and how many of them have been drawn. -/
structure RandomSource where
  byteAt : Nat → UInt8
  drawn : Nat

namespace RandomSource

/-- The sequence that repeats a supply of bytes, from its beginning. -/
def cycling (supply : Array UInt8) : RandomSource where
  byteAt position :=
    if filled : 0 < supply.size then
      have inside : position % supply.size < supply.size := Nat.mod_lt _ filled
      supply[position % supply.size]
    else 0
  drawn := 0

/-- The next byte, and the source after it has been drawn. -/
def next (source : RandomSource) : UInt8 × RandomSource :=
  (source.byteAt source.drawn, { source with drawn := source.drawn + 1 })

end RandomSource

end ChipEight
