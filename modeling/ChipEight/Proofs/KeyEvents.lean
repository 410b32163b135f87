import ChipEight.Keypad
import ChipEight.Proofs.Numerals
import Mathlib.Data.List.Induction

/-!
# What a keypad remembers

A keypad meets requests that name a key by any integer: to press it, to let it go, to put it into a
state, to say whether it is held. An integer that names no key is refused and changes nothing; any
other one names the key with its remainder modulo sixteen. After any series of requests each key is
in the state that the latest request to change it has put it into, and a key that none has changed
is not held. Nothing else about the past matters, and neither does the order in which different keys
were changed.

The lowest held key, the keypad being untouched and the text of the keypad are read off these
states. The text determines them.
-/

namespace ChipEight

/-- What a keypad can be asked for. -/
inductive KeypadRequest where
  | press (position : Int)
  | release (position : Int)
  | assign (position : Int) (down : Bool)
  | query (position : Int)
  deriving DecidableEq, Repr

namespace KeypadRequest

/-- The integer that names the key. -/
def position : KeypadRequest → Int
  | press position | release position | assign position _ | query position => position

/-- The same request under another name of the key. -/
def renamed (other : Int) : KeypadRequest → KeypadRequest
  | press _ => press other
  | release _ => release other
  | assign _ down => assign other down
  | query _ => query other

/-- What is to be done with the key. -/
def access : KeypadRequest → Access
  | query _ => .read
  | press _ | release _ | assign _ _ => .write

/-- The state that the key is to be put into, if any. -/
def change? : KeypadRequest → Option Bool
  | press _ => some true
  | release _ => some false
  | assign _ down => some down
  | query _ => none

/-- Whether the integer names a key. -/
def Accepted (request : KeypadRequest) : Prop := -16 ≤ request.position ∧ request.position ≤ 15

instance (request : KeypadRequest) : Decidable request.Accepted :=
  inferInstanceAs (Decidable (_ ∧ _))

/-- A renamed request has its other name. -/
@[simp] theorem position_renamed (request : KeypadRequest) (other : Int) :
    (request.renamed other).position = other := by
  cases request <;> rfl

/-- A renamed request asks for the same. -/
@[simp] theorem change?_renamed (request : KeypadRequest) (other : Int) :
    (request.renamed other).change? = request.change? := by
  cases request <;> rfl

/-- The state that a request puts a key into, if it is accepted and names the key. -/
def puts? (key : Key) (request : KeypadRequest) : Option Bool :=
  if request.Accepted ∧ request.position % 16 = key.val then request.change? else none

/-- The state that the latest of the requests to change a key put it into. -/
def latest? (past : List KeypadRequest) (key : Key) : Option Bool :=
  past.reverse.findSome? (puts? key)

/-- With one request more the latest one to change a key is this one, or else the one before. -/
theorem latest?_append (past : List KeypadRequest) (request : KeypadRequest) (key : Key) :
    latest? (past ++ [request]) key = (request.puts? key).or (latest? past key) := by
  simp only [latest?, List.reverse_append, List.reverse_singleton, List.findSome?_append,
    List.findSome?_singleton]

end KeypadRequest

/-- An integer names a key exactly if it is the key's number or that number less sixteen, which is
to say that its remainder is the number. -/
theorem cellAt_sixteen_eq_some_iff (position : Int) (key : Key) :
    cellAt 16 position = some key ↔
      (-16 ≤ position ∧ position ≤ 15) ∧ position % 16 = key.val := by
  rw [cellAt_eq_some_iff]
  omega

namespace Keypad

open Text

/-- The keypad after an effect on it, which is as before if the effect was refused. -/
def settle (keypad : Keypad) : Except Fault Keypad → Keypad × Except Fault (Option Bool)
  | .ok changed => (changed, .ok none)
  | .error fault => (keypad, .error fault)

/-- A keypad meets a request. The answer is the state that was asked for, if one was. -/
def serve (keypad : Keypad) : KeypadRequest → Keypad × Except Fault (Option Bool)
  | .press position => keypad.settle (keypad.set position true)
  | .release position => keypad.settle (keypad.set position false)
  | .assign position down => keypad.settle (keypad.set position down)
  | .query position => (keypad, (keypad.query position).map some)

/-- A keypad meets requests one after the other, whether they are refused or not. -/
def serveAll (keypad : Keypad) (requests : List KeypadRequest) : Keypad :=
  requests.foldl (fun keypad request => (keypad.serve request).1) keypad

variable {keypad other : Keypad} {request second : KeypadRequest} {key : Key}

/-! ## One request -/

/-- An accepted request puts its key into the state that it is to have, or says which one it has. -/
theorem serve_of_accepted (named : cellAt 16 request.position = some key) :
    keypad.serve request =
      match request.change? with
      | some down => (keypad.assign key down, .ok none)
      | none => (keypad, .ok (some (keypad.isHeld key))) := by
  cases request <;>
    simp only [KeypadRequest.position] at named <;>
    simp only [serve, set, query, named, settle, KeypadRequest.change?, Except.map]

/-- A request for no key is refused, and changes nothing. -/
theorem serve_of_refused (unnamed : cellAt 16 request.position = none) :
    keypad.serve request = (keypad, .error (.noCell request.access request.position)) := by
  cases request <;>
    simp only [KeypadRequest.position] at unnamed <;>
    simp only [serve, set, query, unnamed, settle, KeypadRequest.access, KeypadRequest.position,
      Except.map]

/-- A request names a key or none. -/
theorem named_or_unnamed (request : KeypadRequest) :
    (∃ key, cellAt 16 request.position = some key ∧ request.Accepted ∧
      request.position % 16 = key.val) ∨
    (cellAt 16 request.position = none ∧ ¬ request.Accepted) := by
  unfold KeypadRequest.Accepted
  cases named : cellAt 16 request.position with
  | some key =>
    obtain ⟨accepted, same⟩ := (cellAt_sixteen_eq_some_iff _ key).mp named
    exact .inl ⟨key, rfl, accepted, same⟩
  | none =>
    have outside := (cellAt_eq_none_iff 16 _).mp named
    exact .inr ⟨rfl, by omega⟩

/-- What a request does and answers depends on its integer through the remainder alone. -/
theorem serve_renamed (accepted : request.Accepted) :
    keypad.serve (request.renamed (request.position % 16)) = keypad.serve request := by
  obtain ⟨key, named, _, same⟩ | ⟨_, rejected⟩ := named_or_unnamed request
  · have renamed : cellAt 16 (request.renamed (request.position % 16)).position = some key := by
      rw [request.position_renamed, cellAt_sixteen_eq_some_iff]
      omega
    rw [serve_of_accepted renamed, serve_of_accepted named, request.change?_renamed]
  · contradiction

/-- A key is in the state that a request puts it into, or in the one it was in. -/
theorem isHeld_serve (keypad : Keypad) (request : KeypadRequest) (key : Key) :
    (keypad.serve request).1.isHeld key = (request.puts? key).getD (keypad.isHeld key) := by
  obtain ⟨other, named, accepted, same⟩ | ⟨unnamed, rejected⟩ := named_or_unnamed request
  · rw [serve_of_accepted named, KeypadRequest.puts?]
    have reached : (request.Accepted ∧ request.position % 16 = key.val) ↔ other = key := by
      rw [same, Fin.ext_iff, Int.natCast_inj]
      exact ⟨And.right, fun equal => ⟨accepted, equal⟩⟩
    simp only [reached]
    cases request.change? with
    | some down =>
      rw [isHeld_assign]
      split <;> rfl
    | none => simp only [ite_self, Option.getD_none]
  · rw [serve_of_refused unnamed, KeypadRequest.puts?, if_neg fun reached => rejected reached.1,
      Option.getD_none]

/-! ## Any number of requests -/

/-- A key is in the state that the latest request to change it put it into, or in the one it was in
from the start. -/
theorem isHeld_serveAll (keypad : Keypad) (past : List KeypadRequest) (key : Key) :
    (keypad.serveAll past).isHeld key =
      (KeypadRequest.latest? past key).getD (keypad.isHeld key) := by
  induction past using List.reverseRecOn with
  | nil => rfl
  | append_singleton past request inductionHypothesis =>
    rw [serveAll, List.foldl_append, List.foldl_cons, List.foldl_nil, isHeld_serve,
      KeypadRequest.latest?_append, Option.getD_or, ← inductionHypothesis, serveAll]

/-- No key of a released keypad is held. -/
theorem isHeld_released (key : Key) : released.isHeld key = false := by
  simp [released, isHeld]

/-- A keypad is known by which of its keys are held. -/
theorem eq_of_isHeld (same : ∀ key, keypad.isHeld key = other.isHeld key) : keypad = other := by
  obtain ⟨held⟩ := keypad
  obtain ⟨otherHeld⟩ := other
  congr 1
  ext position inside
  exact same ⟨position, inside⟩

/-- Requests for different keys may be exchanged. -/
theorem serve_comm (apart : request.position % 16 ≠ second.position % 16) :
    ((keypad.serve request).1.serve second).1 = ((keypad.serve second).1.serve request).1 := by
  apply eq_of_isHeld
  intro key
  simp only [isHeld_serve, KeypadRequest.puts?]
  by_cases reached : request.position % 16 = key.val
  · have missed : second.position % 16 ≠ key.val := fun same => apart (reached.trans same.symm)
    simp only [missed, and_false, if_false, Option.getD_none]
  · simp only [reached, and_false, if_false, Option.getD_none]

/-- The answer to a request does not depend on what was asked for another key. -/
theorem answer_serve (apart : request.position % 16 ≠ second.position % 16) :
    ((keypad.serve request).1.serve second).2 = (keypad.serve second).2 := by
  obtain ⟨key, named, _, same⟩ | ⟨unnamed, _⟩ := named_or_unnamed second
  · rw [serve_of_accepted named, serve_of_accepted named]
    cases second.change? with
    | some down => rfl
    | none =>
      have missed : request.position % 16 ≠ key.val := fun hit => apart (hit.trans same.symm)
      simp only [isHeld_serve, KeypadRequest.puts?, missed, and_false, if_false, Option.getD_none]
  · rw [serve_of_refused unnamed, serve_of_refused unnamed]

/-! ## The text -/

/-- The characters that write some keys, or the one that stands for none. -/
def glyphs (keys : List Key) : List Char := if keys = [] then ['-'] else keys.map upperDigit

/-- The text of a keypad writes the held keys. -/
theorem text_eq_glyphs (keypad : Keypad) :
    keypad.text = String.ofList (glyphs keypad.heldKeys) := by
  have none : keypad.untouched = true ↔ keypad.heldKeys = [] := by
    simp [untouched_iff, heldKeys, List.filter_eq_nil_iff, List.mem_finRange]
  have joined (keys : List Key) :
      String.join (keys.map fun key => Text.upperHexadecimal 1 key.val) =
        String.ofList (keys.map upperDigit) := by
    induction keys with
    | nil => rfl
    | cons key keys inductionHypothesis =>
      rw [List.map_cons, String.join_cons, inductionHypothesis, upperHexadecimal_eq_upperDigit,
        ← String.ofList_append, List.singleton_append, List.map_cons]
  simp only [text, glyphs, none, joined]
  split <;> rfl

/-- Different keys are written differently. -/
theorem glyphs_injective : Function.Injective glyphs := by
  have dash (key : Key) : upperDigit key ≠ '-' := by
    revert key
    decide
  have apart (key : Key) (keys : List Key) : glyphs [] ≠ glyphs (key :: keys) := by
    intro same
    simp only [glyphs, if_true, reduceCtorEq, if_false, List.map_cons, List.cons.injEq] at same
    exact dash key same.1.symm
  intro one other same
  cases one with
  | nil =>
    cases other with
    | nil => rfl
    | cons key keys => exact absurd same (apart key keys)
  | cons key keys =>
    cases other with
    | nil => exact absurd same.symm (apart key keys)
    | cons otherKey otherKeys =>
      simp only [glyphs, reduceCtorEq, if_false] at same
      exact upperDigit_injective.list_map same

/-- A key is listed exactly if it is held. -/
theorem mem_heldKeys (keypad : Keypad) (key : Key) :
    key ∈ keypad.heldKeys ↔ keypad.isHeld key = true := by
  simp only [heldKeys, List.mem_filter, List.mem_finRange, true_and]

/-- A keypad is known by its text. -/
theorem eq_of_text (same : keypad.text = other.text) : keypad = other := by
  rw [text_eq_glyphs, text_eq_glyphs, String.ofList_inj] at same
  have listed := glyphs_injective same
  apply eq_of_isHeld
  intro key
  rw [Bool.eq_iff_iff, ← mem_heldKeys, ← mem_heldKeys, listed]

/-! ## A keypad with a past -/

/-- How a keypad is and answers that has met some requests. -/
structure Remembers (keypad : Keypad) (past : List KeypadRequest) : Prop where
  /-- An integer that names no key is refused, and nothing changes. -/
  refused : ∀ request : KeypadRequest, (request.position < -16 ∨ 15 < request.position) →
    keypad.serve request = (keypad, .error (.noCell request.access request.position))
  /-- Any other integer names the key with its remainder modulo sixteen, and nothing is refused. -/
  wrapped : ∀ request : KeypadRequest, -16 ≤ request.position ∧ request.position ≤ 15 →
    keypad.serve request = keypad.serve (request.renamed (request.position % 16)) ∧
      (keypad.serve request).2.isOk = true
  /-- A key is said to be in the state that the latest request to change it put it into, and not to
  be held if there was none. -/
  latest : ∀ (position : Int) (key : Key), -16 ≤ position ∧ position ≤ 15 →
    position % 16 = key.val →
    keypad.serve (.query position) =
      (keypad, .ok (some ((KeypadRequest.latest? past key).getD false)))
  /-- Nothing else about the past matters. -/
  determined : ∀ other : List KeypadRequest, released.serveAll other = keypad ↔
    ∀ key, (KeypadRequest.latest? other key).getD false =
      (KeypadRequest.latest? past key).getD false
  /-- Requests for different keys may be exchanged, and are answered alike in either order. -/
  commuting : ∀ one other : KeypadRequest, one.position % 16 ≠ other.position % 16 →
    ((keypad.serve one).1.serve other).1 = ((keypad.serve other).1.serve one).1 ∧
      ((keypad.serve one).1.serve other).2 = (keypad.serve other).2
  /-- The lowest key is held, and none below it is. -/
  lowest : ∀ key, keypad.lowest? = some key ↔
    keypad.isHeld key = true ∧ ∀ lower < key, keypad.isHeld lower = false
  /-- There is no lowest key exactly if no key is held, as an untouched keypad says. -/
  untouched : (keypad.lowest? = none ↔ keypad.untouched = true) ∧
    (keypad.untouched = true ↔ ∀ key, keypad.isHeld key = false)
  /-- The text has the digits of the held keys in ascending order, or is a dash. -/
  written : ∃ keys : List Key, keys.Pairwise (· < ·) ∧
    (∀ key, key ∈ keys ↔ keypad.isHeld key = true) ∧
    keypad.text = if keys = [] then "-" else String.ofList (keys.map upperDigit)
  /-- A keypad with the same text is the same keypad. -/
  known : ∀ other : Keypad, other.text = keypad.text → other = keypad

/-- Whatever requests a released keypad has met, it refuses what names no key, is in each key what
the latest request for this key made it, and shows the held keys, no more and no fewer, as its
lowest one, as its touch and as its text.

Proof: a request changes at most the key that it names, and its effect there does not depend on the
keypad. Induction from the end of the past makes the latest effect decide. A keypad is the states of
its keys, and each of the other claims reads these. -/
theorem remembers_serveAll (past : List KeypadRequest) :
    (released.serveAll past).Remembers past where
  refused := by
    intro request outside
    apply serve_of_refused
    rw [cellAt_eq_none_iff]
    omega
  wrapped := by
    intro request accepted
    obtain ⟨key, named, _⟩ | ⟨_, rejected⟩ := named_or_unnamed request
    · refine ⟨(serve_renamed accepted).symm, ?_⟩
      rw [serve_of_accepted named]
      cases request.change? <;> rfl
    · contradiction
  latest := by
    intro position key inside same
    have named : cellAt 16 (KeypadRequest.query position).position = some key :=
      (cellAt_sixteen_eq_some_iff position key).mpr ⟨inside, same⟩
    simp only [serve_of_accepted named, KeypadRequest.change?, isHeld_serveAll, isHeld_released]
  determined := by
    intro other
    constructor
    · intro equal key
      have held := congrArg (fun keypad : Keypad => keypad.isHeld key) equal
      simpa only [isHeld_serveAll, isHeld_released] using held
    · intro alike
      apply eq_of_isHeld
      intro key
      simpa only [isHeld_serveAll, isHeld_released] using alike key
  commuting := fun _ _ apart => ⟨serve_comm apart, answer_serve apart⟩
  lowest := lowest?_eq_some_iff _
  untouched := ⟨by rw [lowest?_eq_none_iff, untouched_iff], untouched_iff _⟩
  written := by
    refine ⟨_, List.Pairwise.filter _ (List.pairwise_lt_finRange 16), mem_heldKeys _, ?_⟩
    rw [text_eq_glyphs, glyphs, heldKeys]
    split <;> rfl
  known := fun _ same => eq_of_text same

end Keypad

end ChipEight
