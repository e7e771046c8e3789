import Stencil.Proofs.Body.Depth

/-! # Putting a tree together

Along steady tokens no step fails, the open loops of the draft are those that are pending behind the
tokens, and nothing in the draft is nested too deeply (`exists_draft`). So a tree is made exactly of
steady tokens that end every loop, and any other tokens give the fault that their depths show.
-/

namespace Stencil.Node

open Token

mutual

/-- The number of loops inside each other in a node. -/
def height : Node → Nat
  | text _ => 0
  | value _ _ => 0
  | loop _ _ body => heightAll body + 1

/-- The number of loops inside each other in some nodes. -/
def heightAll : List Node → Nat
  | [] => 0
  | node :: rest => max node.height (heightAll rest)

end

theorem heightAll_append (front back : List Node) :
    heightAll (front ++ back) = max (heightAll front) (heightAll back) := by
  induction front with
  | nil => simp [heightAll]
  | cons node rest ih => rw [List.cons_append, heightAll, heightAll, ih, Nat.max_assoc]

theorem heightAll_reverse (nodes : List Node) : heightAll nodes.reverse = heightAll nodes := by
  induction nodes with
  | nil => rfl
  | cons node rest ih =>
    rw [List.reverse_cons, heightAll_append, ih, Nat.max_comm, heightAll, heightAll, heightAll,
      Nat.max_zero]

theorem heightAll_appendText (words : String) (nodes : List Node) :
    heightAll (appendText words nodes) = heightAll nodes := by
  unfold appendText
  split <;> simp [heightAll, height]

/-- Nothing in a draft is nested too deeply, the loops around it included. -/
def Fits (nodes : List Node) : List Opened → Prop
  | [] => heightAll nodes ≤ maxLoopDepth
  | inner :: outer => heightAll nodes + (outer.length + 1) ≤ maxLoopDepth ∧ Fits inner.before outer

theorem Fits.bound {nodes : List Node} {opened : List Opened} (fits : Fits nodes opened) :
    heightAll nodes + opened.length ≤ maxLoopDepth := by
  cases opened with
  | nil => exact fits
  | cons inner outer => exact fits.1

theorem Fits.of_le {nodes next : List Node} {opened : List Opened} (fits : Fits nodes opened)
    (bound : heightAll next + opened.length ≤ maxLoopDepth) : Fits next opened := by
  cases opened with
  | nil => exact bound
  | cons inner outer => exact ⟨bound, fits.2⟩

/-- A step within the bounds succeeds, and keeps what is known of the draft. -/
theorem Draft.step_ok {tokens : List Token} {token : Token} {draft : Draft}
    (pending : Pending tokens draft.opened) (fits : Fits draft.nodes draft.opened)
    (bounds : 0 ≤ depth (tokens ++ [token]) ∧ depth (tokens ++ [token]) ≤ maxLoopDepth) :
    ∃ next, draft.step token = .ok next ∧ Pending (tokens ++ [token]) next.opened ∧
      Fits next.nodes next.opened := by
  have level := pending.depth_eq
  have bound := fits.bound
  rcases token with ⟨words | path | collection | _, position⟩
  · refine ⟨_, rfl, pending.append (.singleton rfl), fits.of_le ?_⟩
    rwa [heightAll_appendText]
  · refine ⟨_, rfl, pending.append (.singleton rfl), fits.of_le ?_⟩
    simpa [heightAll, height] using bound
  · rw [depth_append, depth_each, level] at bounds
    have room : draft.opened.length < maxLoopDepth := by omega
    refine ⟨_, if_pos room, .some ⟨collection, position, draft.nodes⟩ pending .nil, ?_, fits⟩
    rw [heightAll]
    omega
  · rw [depth_append, depth_close, level] at bounds
    rcases draft with ⟨nodes, _ | ⟨inner, outer⟩⟩
    · simp at bounds
    · refine ⟨_, rfl, pending.close position, fits.2.of_le ?_⟩
      have before := fits.2.bound
      rw [heightAll, height, heightAll_reverse]
      rw [List.length_cons] at bound
      omega

/-- Steady tokens make a draft, in which exactly the loops are open that are pending behind them. -/
theorem exists_draft {tokens : List Token} (steady : Steady tokens) :
    ∃ draft, tokens.foldlM Draft.step ⟨[], []⟩ = .ok draft ∧ Pending tokens draft.opened ∧
      Fits draft.nodes draft.opened := by
  induction tokens using List.reverseRecOn with
  | nil => exact ⟨⟨[], []⟩, rfl, .none .nil, Nat.zero_le _⟩
  | append_singleton tokens token ih =>
    obtain ⟨draft, made, pending, fits⟩ := ih steady.front
    obtain ⟨next, stepped, kept⟩ := draft.step_ok pending fits steady.bounds
    refine ⟨next, ?_, kept⟩
    rw [List.foldlM_append, made]
    change (draft.step token >>= fun next => pure next) = .ok next
    rw [stepped]
    rfl

/-- What follows a draft and a fault does not matter. -/
private theorem ofTokens_eq_error {front back : List Token} {token : Token} {draft : Draft}
    {fault : Fault} (made : front.foldlM Draft.step ⟨[], []⟩ = .ok draft)
    (failed : draft.step token = .error fault) :
    ofTokens (front ++ token :: back) = .error fault := by
  rw [ofTokens, List.foldlM_append, made]
  change ((draft.step token >>= fun next => back.foldlM Draft.step next).bind Draft.finish) = _
  rw [failed]
  rfl

/-- Tokens at fault are no tree, and the fault is reported. -/
theorem ofTokens_of_offence {tokens : List Token} {fault : Fault} (offence : Offence tokens fault) :
    ofTokens tokens = .error fault := by
  cases offence with
  | @unmatchedClose front back position steady out =>
    obtain ⟨⟨nodes, opened⟩, made, pending, _⟩ := exists_draft steady
    have level := pending.depth_eq
    rw [depth_append, depth_close] at out
    obtain rfl : opened = [] := List.eq_nil_of_length_eq_zero (by dsimp only at level; omega)
    exact ofTokens_eq_error made rfl
  | @tooDeep front back collection position steady deep =>
    obtain ⟨draft, made, pending, _⟩ := exists_draft steady
    have level := pending.depth_eq
    rw [depth_append, depth_each] at deep
    exact ofTokens_eq_error made (if_neg (by omega))
  | @unclosed _ front back collection position count steady level begun lasting last =>
    obtain ⟨⟨nodes, opened⟩, made, pending, _⟩ := exists_draft steady
    have counted := pending.depth_eq
    dsimp only at counted pending
    cases pending with
    | none even => exact absurd (even.ended front _ back begun rfl) lasting
    | @some front' back' outer inner before inside =>
      obtain ⟨same, _⟩ :=
        last_begun_unique begun rfl rfl inside.not_ended lasting inside.ended last
      cases same
      obtain rfl : outer.length + 1 = count := by
        rw [List.length_cons] at counted
        omega
      rw [ofTokens, made]
      rfl

/-- Steady tokens that end every loop make a tree, not too deep. -/
theorem exists_ofTokens {tokens : List Token} (steady : Steady tokens) (even : depth tokens = 0) :
    ∃ nodes, ofTokens tokens = .ok nodes ∧ heightAll nodes ≤ maxLoopDepth := by
  obtain ⟨⟨nodes, opened⟩, made, pending, fits⟩ := exists_draft steady
  have level := pending.depth_eq
  obtain rfl : opened = [] := List.eq_nil_of_length_eq_zero (by dsimp only at level; omega)
  refine ⟨nodes.reverse, ?_, ?_⟩
  · rw [ofTokens, made]
    rfl
  · rw [heightAll_reverse]
    exact fits

/-- Tokens are steady and end every loop, or there is a fault in them. -/
theorem even_or_offence (tokens : List Token) :
    Steady tokens ∧ depth tokens = 0 ∨ ∃ fault, Offence tokens fault := by
  rcases steady_or_first tokens with steady | ⟨front, token, back, rfl, steady, leaves⟩
  · obtain ⟨⟨nodes, opened⟩, _, pending, _⟩ := exists_draft steady
    cases opened with
    | nil => exact .inl ⟨steady, pending.depth_eq⟩
    | cons inner outer => exact .inr ⟨_, pending.offence steady⟩
  · exact .inr (offence_of_first steady leaves)

end Stencil.Node

namespace Stencil.Parsed

open Token

variable {stream : TokenStream}

private theorem ofStream_of_offence {fault : Fault} (offence : Offence stream.tokens fault) :
    ofStream stream = .error fault := by
  rw [ofStream, Node.ofTokens_of_offence offence]
  rfl

private theorem exists_ofStream (steady : Steady stream.tokens) (even : depth stream.tokens = 0) :
    ∃ parsed, ofStream stream = .ok parsed ∧ Node.heightAll parsed.nodes ≤ maxLoopDepth := by
  obtain ⟨nodes, made, bound⟩ := Node.exists_ofTokens steady even
  exact ⟨⟨nodes, stream.warnings⟩, by rw [ofStream, made]; rfl, bound⟩

theorem ofStream_eq_error_iff (fault : Fault) :
    ofStream stream = .error fault ↔ Offence stream.tokens fault := by
  refine ⟨fun failed => ?_, ofStream_of_offence⟩
  rcases Node.even_or_offence stream.tokens with ⟨steady, even⟩ | ⟨other, offence⟩
  · obtain ⟨parsed, made, _⟩ := exists_ofStream steady even
    rw [made] at failed
    cases failed
  · rw [ofStream_of_offence offence] at failed
    cases failed
    exact offence

theorem even_of_ofStream {parsed : Parsed} (made : ofStream stream = .ok parsed) :
    Steady stream.tokens ∧ depth stream.tokens = 0 := by
  rcases Node.even_or_offence stream.tokens with even | ⟨fault, offence⟩
  · exact even
  · rw [ofStream_of_offence offence] at made
    cases made

theorem heightAll_le_of_ofStream {parsed : Parsed} (made : ofStream stream = .ok parsed) :
    Node.heightAll parsed.nodes ≤ maxLoopDepth := by
  obtain ⟨steady, even⟩ := even_of_ofStream made
  obtain ⟨other, again, bound⟩ := exists_ofStream steady even
  rw [made] at again
  cases again
  exact bound

/-- A stream of tokens is refused for exactly the fault that the depths of its tokens show; it makes
a template exactly if no token leaves the bounds and every loop is ended, and then no loops are
nested deeper than the bound. -/
theorem ofStream_spec (stream : TokenStream) :
    (∀ fault, ofStream stream = .error fault ↔ Offence stream.tokens fault) ∧
    ((∃ parsed, ofStream stream = .ok parsed) ↔
      Steady stream.tokens ∧ depth stream.tokens = 0) ∧
    ∀ parsed, ofStream stream = .ok parsed → Node.heightAll parsed.nodes ≤ maxLoopDepth := by
  refine ⟨ofStream_eq_error_iff, ⟨fun ⟨_, made⟩ => even_of_ofStream made, ?_⟩,
    fun _ => heightAll_le_of_ofStream⟩
  rintro ⟨steady, even⟩
  obtain ⟨parsed, made, _⟩ := exists_ofStream steady even
  exact ⟨parsed, made⟩

end Stencil.Parsed
