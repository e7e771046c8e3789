import Mathlib.Data.List.Induction
import Stencil.Body.Node

/-! # How deep tokens lead into loops

The depth of tokens counts the loops they begin less the loops they end. What may go wrong with the
loops of a template is said in terms of depths alone (`Offence`), and so is which loops are open
behind tokens (`Pending`); neither mentions how a tree is put together.
-/

namespace Stencil.Token

/-- Whether a token begins a loop. -/
def opens (token : Token) : Bool :=
  match token.content with
  | .directive (.each _) => true
  | _ => false

/-- Whether a token ends a loop. -/
def closes (token : Token) : Bool :=
  match token.content with
  | .directive .close => true
  | _ => false

/-- The number of loops that tokens begin, less the number that they end. -/
def depth (tokens : List Token) : Int := (tokens.countP opens : Int) - tokens.countP closes

theorem closes_of_opens {token : Token} (opens : token.opens) : token.closes = false := by
  unfold Token.opens at opens
  unfold closes
  split at opens
  · next each => rw [each]
  · cases opens

@[simp] theorem depth_nil : depth [] = 0 := rfl

@[simp] theorem depth_append (front back : List Token) :
    depth (front ++ back) = depth front + depth back := by
  simp only [depth, List.countP_append]
  omega

theorem depth_cons (token : Token) (rest : List Token) :
    depth (token :: rest) = depth [token] + depth rest := depth_append [token] rest

@[simp] theorem depth_text (words : String) (position : Position) :
    depth [⟨.text words, position⟩] = 0 := rfl

@[simp] theorem depth_value (path : String) (position : Position) :
    depth [⟨.directive (.value path), position⟩] = 0 := rfl

@[simp] theorem depth_each (collection : String) (position : Position) :
    depth [⟨.directive (.each collection), position⟩] = 1 := rfl

@[simp] theorem depth_close (position : Position) :
    depth [⟨.directive .close, position⟩] = -1 := rfl

theorem depth_of_opens {token : Token} (opens : token.opens) : depth [token] = 1 := by
  simp [depth, opens, closes_of_opens opens]

/-- No token leads out of the loops that were begun, or into too many. -/
def Steady (tokens : List Token) : Prop :=
  ∀ n, 0 ≤ depth (tokens.take n) ∧ depth (tokens.take n) ≤ maxLoopDepth

theorem Steady.bounds {tokens : List Token} (steady : Steady tokens) :
    0 ≤ depth tokens ∧ depth tokens ≤ maxLoopDepth := by
  simpa using steady tokens.length

theorem Steady.front {front back : List Token} (steady : Steady (front ++ back)) :
    Steady front := by
  intro n
  have bounds := steady (min n front.length)
  rwa [List.take_append_of_le_length (Nat.min_le_right ..), ← List.take_eq_take_min] at bounds

theorem Steady.push {front : List Token} {token : Token} (steady : Steady front)
    (bounds : 0 ≤ depth (front ++ [token]) ∧ depth (front ++ [token]) ≤ maxLoopDepth) :
    Steady (front ++ [token]) := by
  intro n
  by_cases inside : n ≤ front.length
  · rw [List.take_append_of_le_length inside]
    exact steady n
  · rwa [List.take_of_length_le (by simp only [List.length_append, List.length_singleton]; omega)]

/-- Tokens are steady, or there is a first one that leaves the bounds. -/
theorem steady_or_first (tokens : List Token) :
    Steady tokens ∨ ∃ front token back, tokens = front ++ token :: back ∧ Steady front ∧
      ¬(0 ≤ depth (front ++ [token]) ∧ depth (front ++ [token]) ≤ maxLoopDepth) := by
  induction tokens using List.reverseRecOn with
  | nil => exact .inl fun n => by simp
  | append_singleton tokens token ih =>
    rcases ih with steady | ⟨front, first, back, rfl, steady, leaves⟩
    · by_cases bounds : 0 ≤ depth (tokens ++ [token]) ∧ depth (tokens ++ [token]) ≤ maxLoopDepth
      · exact .inl (steady.push bounds)
      · exact .inr ⟨tokens, token, [], rfl, steady, bounds⟩
    · exact .inr ⟨front, first, back ++ [token], by simp, steady, leaves⟩

/-- Among the tokens behind the beginning of a loop is the one that ends it. -/
def Ended (behind : List Token) : Prop := ∃ n, depth (behind.take n) < 0

/-- The fault of tokens: the first one that leads out of all loops or into too many, or else the
last beginning of a loop that is not ended. -/
inductive Offence : List Token → Fault → Prop
  | unmatchedClose {front back : List Token} {position : Position} (steady : Steady front)
      (out : depth (front ++ [⟨.directive .close, position⟩]) = -1) :
      Offence (front ++ ⟨.directive .close, position⟩ :: back) (.unmatchedClose position)
  | tooDeep {front back : List Token} {collection : String} {position : Position}
      (steady : Steady front)
      (deep : depth (front ++ [⟨.directive (.each collection), position⟩]) = maxLoopDepth + 1) :
      Offence (front ++ ⟨.directive (.each collection), position⟩ :: back)
        (.tooDeep collection position)
  | unclosed {tokens front back : List Token} {collection : String} {position : Position}
      {count : Nat} (steady : Steady tokens) (level : depth tokens = count)
      (begun : tokens = front ++ ⟨.directive (.each collection), position⟩ :: back)
      (lasting : ¬Ended back)
      (last : ∀ mid token later, back = mid ++ token :: later → token.opens → Ended later) :
      Offence tokens (.unclosed collection position count)

/-- The first token that leaves the bounds ends a loop never begun, or begins one too many. -/
theorem offence_of_first {front back : List Token} {token : Token} (steady : Steady front)
    (leaves : ¬(0 ≤ depth (front ++ [token]) ∧ depth (front ++ [token]) ≤ maxLoopDepth)) :
    ∃ fault, Offence (front ++ token :: back) fault := by
  have bounds := steady.bounds
  rcases token with ⟨words | path | collection | _, position⟩
  · rw [depth_append, depth_text] at leaves
    omega
  · rw [depth_append, depth_value] at leaves
    omega
  · refine ⟨_, .tooDeep steady ?_⟩
    rw [depth_append, depth_each] at leaves ⊢
    omega
  · refine ⟨_, .unmatchedClose steady ?_⟩
    rw [depth_append, depth_close] at leaves ⊢
    omega

/-- Tokens that end exactly the loops that they begin. -/
structure Level (tokens : List Token) : Prop where
  low : ∀ n, 0 ≤ depth (tokens.take n)
  even : depth tokens = 0

theorem Level.nil : Level [] := ⟨fun _ => by simp, rfl⟩

theorem Level.singleton {token : Token} (flat : depth [token] = 0) : Level [token] where
  low n := by cases n <;> simp [flat]
  even := flat

theorem Level.append {front back : List Token} (first : Level front) (second : Level back) :
    Level (front ++ back) where
  low n := by
    have left := first.low n
    have right := second.low (n - front.length)
    rw [List.take_append, depth_append]
    omega
  even := by rw [depth_append, first.even, second.even]; rfl

/-- A loop around such tokens ends with them. -/
theorem Level.loop {inside : List Token} (level : Level inside) (collection : String)
    (first last : Position) :
    Level (⟨.directive (.each collection), first⟩ :: inside ++ [⟨.directive .close, last⟩]) where
  low n := by
    cases n with
    | zero => simp
    | succ n =>
      have low := level.low n
      have closing :
          -1 ≤ depth ([(⟨.directive .close, last⟩ : Token)].take (n - inside.length)) := by
        cases n - inside.length <;> simp
      rw [List.cons_append, List.take_succ_cons, depth_cons, depth_each, List.take_append,
        depth_append]
      omega
  even := by rw [List.cons_append, depth_cons, depth_append, level.even]; rfl

/-- The loops that are open behind tokens, innermost first: each where it begins, and from there on
only loops that end. -/
inductive Pending : List Token → List Node.Opened → Prop
  | none {tokens : List Token} (level : Level tokens) : Pending tokens []
  | some {front back : List Token} {outer : List Node.Opened} (opened : Node.Opened)
      (before : Pending front outer) (level : Level back) :
      Pending (front ++ ⟨.directive (.each opened.collection), opened.position⟩ :: back)
        (opened :: outer)

theorem Pending.append {tokens more : List Token} {opened : List Node.Opened}
    (pending : Pending tokens opened) (level : Level more) : Pending (tokens ++ more) opened := by
  cases pending with
  | none before => exact .none (before.append level)
  | some opened before inside =>
    rw [List.append_assoc, List.cons_append]
    exact .some opened before (inside.append level)

theorem Pending.close {tokens : List Token} {inner : Node.Opened} {outer : List Node.Opened}
    (pending : Pending tokens (inner :: outer)) (position : Position) :
    Pending (tokens ++ [⟨.directive .close, position⟩]) outer := by
  cases pending with
  | some _ before level =>
    rw [List.append_assoc]
    exact before.append (level.loop _ _ position)

theorem Pending.depth_eq {tokens : List Token} {opened : List Node.Opened}
    (pending : Pending tokens opened) : depth tokens = opened.length := by
  induction pending with
  | none level => exact level.even
  | some opened _ level ih =>
    rw [depth_append, depth_cons, depth_each, level.even, ih, List.length_cons]
    omega

theorem Level.not_ended {tokens : List Token} (level : Level tokens) : ¬Ended tokens := by
  rintro ⟨n, below⟩
  have := level.low n
  omega

/-- Whatever such tokens begin, they end. -/
theorem Level.ended {tokens : List Token} (level : Level tokens) :
    ∀ mid token later, tokens = mid ++ token :: later → token.opens → Ended later := by
  rintro mid token later rfl opens
  have low := level.low mid.length
  have even := level.even
  rw [List.take_left] at low
  rw [depth_append, depth_cons, depth_of_opens opens] at even
  exact ⟨later.length, by rw [List.take_length]; omega⟩

/-- The innermost loop that is open behind tokens is the one at fault. -/
theorem Pending.offence {tokens : List Token} {inner : Node.Opened} {outer : List Node.Opened}
    (pending : Pending tokens (inner :: outer)) (steady : Steady tokens) :
    Offence tokens (.unclosed inner.collection inner.position (outer.length + 1)) := by
  have level := pending.depth_eq
  cases pending with
  | some _ before inside =>
    exact .unclosed steady level rfl inside.not_ended inside.ended

/-- There is only one last beginning of a loop that is not ended. -/
theorem last_begun_unique {front front' back back' : List Token} {token token' : Token}
    (same : front ++ token :: back = front' ++ token' :: back')
    (opens : token.opens) (opens' : token'.opens) (lasting : ¬Ended back) (lasting' : ¬Ended back')
    (last : ∀ mid token later, back = mid ++ token :: later → token.opens → Ended later)
    (last' : ∀ mid token later, back' = mid ++ token :: later → token.opens → Ended later) :
    token = token' ∧ back = back' := by
  rcases List.append_eq_append_iff.mp same with ⟨mid, rfl, behind⟩ | ⟨mid, rfl, behind⟩
  · cases mid with
    | nil => exact List.cons.inj behind
    | cons _ mid => exact absurd (last mid token' back' (List.cons.inj behind).2 opens') lasting'
  · cases mid with
    | nil => exact ⟨(List.cons.inj behind).1.symm, (List.cons.inj behind).2.symm⟩
    | cons _ mid => exact absurd (last' mid token back (List.cons.inj behind).2 opens) lasting

end Stencil.Token
