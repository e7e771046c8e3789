import Mathlib.Data.List.Chain
import Stencil.Proofs.Body.Nesting

/-! # Taking a tree apart

A tree without neighbouring texts is taken apart into tokens, and the tokens make the tree again
(`ofTokens_tokensAll`). The other way round, a tree that tokens make is taken apart into these tokens
with touching texts joined (`tokensAll_of_ofTokens`): joining texts first makes no difference to the
tree, and then each step puts exactly one token behind what the draft consists of.
-/

namespace Stencil

namespace Token

/-- Whether a token is literal text. -/
def isText (token : Token) : Bool :=
  match token.content with
  | .text _ => true
  | .directive _ => false

/-- A token without the position that a tree does not keep: that of a text or of the end of a
loop. -/
def bare (token : Token) : Token :=
  match token.content with
  | .text _ => { token with position := .start }
  | .directive .close => { token with position := .start }
  | .directive _ => token

/-- Tokens with each run of texts joined into one. -/
def join : List Token → List Token
  | [] => []
  | token :: rest =>
    match token.content, join rest with
    | .text words, ⟨.text more, _⟩ :: behind => ⟨.text (words ++ more), token.position⟩ :: behind
    | _, joined => token :: joined

/-- No two neighbours among some tokens are both text. -/
def Apart (tokens : List Token) : Prop :=
  tokens.IsChain fun token next => ¬(token.isText ∧ next.isText)

instance (tokens : List Token) : Decidable (Apart tokens) :=
  inferInstanceAs (Decidable (tokens.IsChain _))

@[simp] theorem isText_bare (token : Token) : token.bare.isText = token.isText := by
  rcases token with ⟨words | path | collection | _, position⟩ <;> rfl

@[simp] theorem content_bare (token : Token) : token.bare.content = token.content := by
  rcases token with ⟨words | path | collection | _, position⟩ <;> rfl

/-- A token in front of joined tokens is put there, or a text is joined with the first of them. -/
theorem join_cons (token : Token) (rest : List Token) :
    join (token :: rest) = token :: join rest ∧
        ¬(token.isText ∧ ∃ next ∈ (join rest).head?, next.isText) ∨
      ∃ words more position behind, token.content = .text words ∧
        join rest = ⟨.text more, position⟩ :: behind ∧
        join (token :: rest) = ⟨.text (words ++ more), token.position⟩ :: behind := by
  rcases token with ⟨words | directive, position⟩
  · rcases joined : join rest with _ | ⟨⟨more | directive, place⟩, behind⟩
    · left
      simp [join, joined]
    · right
      exact ⟨words, more, place, behind, rfl, rfl, by simp [join, joined]⟩
    · left
      simp [join, joined, isText]
  · left
    simp [join, isText]

theorem apart_join (tokens : List Token) : Apart (join tokens) := by
  induction tokens with
  | nil => exact .nil
  | cons token rest ih =>
    rcases join_cons token rest with ⟨same, apart⟩ | ⟨words, more, position, behind, _, tail, same⟩
    · rw [same]
      refine List.isChain_cons.mpr ⟨fun next member both => apart ⟨both.1, next, member, both.2⟩, ih⟩
    · rw [same]
      rw [tail] at ih
      obtain ⟨first, later⟩ := List.isChain_cons.mp ih
      exact List.isChain_cons.mpr ⟨fun next member both => first next member ⟨rfl, both.2⟩, later⟩

end Token

namespace Node

open Token

/-- Whether a node is text. -/
def isText : Node → Bool
  | text _ => true
  | _ => false

mutual

/-- A node as tokens, those of a loop around those of its body. The positions that a tree does not
keep are those of the start. -/
def tokens : Node → List Token
  | text words => [⟨.text words, .start⟩]
  | value path position => [⟨.directive (.value path), position⟩]
  | loop collection position body =>
    ⟨.directive (.each collection), position⟩ :: tokensAll body ++ [⟨.directive .close, .start⟩]

/-- Nodes as tokens. -/
def tokensAll : List Node → List Token
  | [] => []
  | node :: rest => node.tokens ++ tokensAll rest

end

mutual

/-- No two neighbours inside a node are both text. -/
def Apart : Node → Prop
  | text _ => True
  | value _ _ => True
  | loop _ _ body => ApartAll body

/-- No two neighbours among some nodes or inside them are both text. -/
def ApartAll : List Node → Prop
  | [] => True
  | node :: rest =>
    node.Apart ∧ (∀ next ∈ rest.head?, ¬(node.isText ∧ next.isText)) ∧ ApartAll rest

end

mutual

theorem content_tokens : (node : Node) → node.tokens.map (·.content) = node.flatten
  | text words => rfl
  | value path position => rfl
  | loop collection position body => by
    rw [tokens, flatten, ← content_tokensAll body]
    simp

theorem content_tokensAll : (nodes : List Node) →
    (tokensAll nodes).map (·.content) = flattenAll nodes
  | [] => rfl
  | node :: rest => by
    rw [tokensAll, flattenAll, List.map_append, content_tokens node, content_tokensAll rest]

end

theorem tokensAll_append (front back : List Node) :
    tokensAll (front ++ back) = tokensAll front ++ tokensAll back := by
  induction front with
  | nil => rfl
  | cons node rest ih => rw [List.cons_append, tokensAll, tokensAll, ih, List.append_assoc]

theorem tokensAll_singleton (node : Node) : tokensAll [node] = node.tokens := by
  rw [tokensAll, tokensAll, List.append_nil]

theorem head?_tokensAll_of_isText {nodes : List Node} {next : Node} (first : next ∈ nodes.head?)
    (text : next.isText) : ∃ token ∈ (tokensAll nodes).head?, token.isText := by
  obtain ⟨rest, rfl⟩ := List.head?_eq_some_iff.mp first
  cases next with
  | text words => exact ⟨_, rfl, rfl⟩
  | value path position => cases text
  | loop collection position body => cases text

mutual

/-- If texts do not touch in the tokens of a node, they do not in the node. -/
theorem apart_of_tokens : (node : Node) → Token.Apart node.tokens → node.Apart
  | text words => fun _ => trivial
  | value path position => fun _ => trivial
  | loop collection position body => by
    intro apart
    rw [tokens, List.cons_append] at apart
    exact apartAll_of_tokensAll body (List.isChain_append.mp (List.isChain_cons.mp apart).2).1

theorem apartAll_of_tokensAll : (nodes : List Node) → Token.Apart (tokensAll nodes) →
    ApartAll nodes
  | [] => fun _ => trivial
  | node :: rest => by
    intro apart
    rw [tokensAll] at apart
    obtain ⟨inFront, behind, between⟩ := List.isChain_append.mp apart
    refine ⟨apart_of_tokens node inFront, fun next first both => ?_, apartAll_of_tokensAll rest behind⟩
    obtain ⟨token, begins, text⟩ := head?_tokensAll_of_isText first both.2
    cases node with
    | text words => exact between _ rfl token begins ⟨rfl, text⟩
    | value path position => cases both.1
    | loop collection position body => cases both.1

end

theorem appendText_append (words more : String) (nodes : List Node) :
    appendText (words ++ more) nodes = appendText more (appendText words nodes) := by
  unfold appendText
  split <;> simp [String.append_assoc]

/-- A text that does not follow a text is a node of its own. -/
theorem appendText_of_apart {words : String} {nodes : List Node}
    (apart : ∀ node ∈ nodes.head?, ¬node.isText) : appendText words nodes = text words :: nodes := by
  unfold appendText
  split
  · next before rest => exact absurd rfl (apart (text before) rfl)
  · rfl

/-- Joining texts first makes no difference to a draft. -/
theorem foldlM_join (tokens : List Token) (draft : Draft) :
    (join tokens).foldlM Draft.step draft = tokens.foldlM Draft.step draft := by
  induction tokens generalizing draft with
  | nil => rfl
  | cons token rest ih =>
    rcases join_cons token rest with ⟨same, _⟩ | ⟨words, more, position, behind, content, tail, same⟩
    · rw [same, List.foldlM_cons, List.foldlM_cons]
      exact congrArg (draft.step token >>= ·) (funext ih)
    · obtain ⟨_, place⟩ := token
      obtain rfl := content
      have once := ih { draft with nodes := appendText words draft.nodes }
      rw [tail, List.foldlM_cons] at once
      rw [same, List.foldlM_cons, List.foldlM_cons]
      refine Eq.trans ?_ once
      simp only [Draft.step, appendText_append]

theorem ofTokens_join (tokens : List Token) : ofTokens (join tokens) = ofTokens tokens := by
  rw [ofTokens, ofTokens, foldlM_join]

/-- A step does not look at the positions that a tree does not keep. -/
theorem Draft.step_bare (draft : Draft) (token : Token) (next : Draft) :
    draft.step token.bare = .ok next ↔ draft.step token = .ok next := by
  rcases token with ⟨words | path | collection | _, position⟩
  · rfl
  · rfl
  · rfl
  · rcases draft with ⟨nodes, _ | ⟨inner, outer⟩⟩
    · constructor <;> intro stepped <;> cases stepped
    · rfl

theorem bind_eq_ok_iff {α β : Type} {first : Except Fault α} {second : α → Except Fault β}
    {result : β} :
    (first >>= second) = .ok result ↔ ∃ value, first = .ok value ∧ second value = .ok result := by
  cases first with
  | ok value =>
    constructor
    · intro made
      exact ⟨value, rfl, made⟩
    · rintro ⟨_, same, made⟩
      cases same
      exact made
  | error fault =>
    constructor
    · intro made
      cases made
    · rintro ⟨_, same, _⟩
      cases same

theorem foldlM_bare (tokens : List Token) (draft next : Draft) :
    (tokens.map bare).foldlM Draft.step draft = .ok next ↔
      tokens.foldlM Draft.step draft = .ok next := by
  induction tokens generalizing draft with
  | nil => rfl
  | cons token rest ih =>
    rw [List.map_cons, List.foldlM_cons, List.foldlM_cons, bind_eq_ok_iff, bind_eq_ok_iff]
    simp only [Draft.step_bare, ih]

theorem ofTokens_eq_ok_iff {tokens : List Token} {nodes : List Node} :
    ofTokens tokens = .ok nodes ↔
      tokens.foldlM Draft.step ⟨[], []⟩ = .ok ⟨nodes.reverse, []⟩ := by
  change (tokens.foldlM Draft.step ⟨[], []⟩ >>= Draft.finish) = .ok nodes ↔ _
  rw [bind_eq_ok_iff]
  constructor
  · rintro ⟨⟨built, _ | ⟨inner, outer⟩⟩, made, finished⟩
    · cases finished
      rw [made, List.reverse_reverse]
    · cases finished
  · intro made
    exact ⟨_, made, congrArg Except.ok nodes.reverse_reverse⟩

mutual

/-- The tokens of a node make it again, wherever there is room for it and no text in front of it
that it would be joined with. -/
theorem foldlM_tokens : (node : Node) → (draft : Draft) → node.Apart →
    node.height + draft.opened.length ≤ maxLoopDepth →
    (∀ last ∈ draft.nodes.head?, ¬(last.isText ∧ node.isText)) →
    node.tokens.foldlM Draft.step draft = .ok { draft with nodes := node :: draft.nodes }
  | text words => by
    intro draft _ _ free
    have alone : appendText words draft.nodes = text words :: draft.nodes :=
      appendText_of_apart fun last member isText => free last member ⟨isText, rfl⟩
    rw [← alone]
    rfl
  | value path position => fun draft _ _ _ => rfl
  | loop collection position body => by
    intro draft apart room _
    rw [height] at room
    let inner : Draft := ⟨[], ⟨collection, position, draft.nodes⟩ :: draft.opened⟩
    have opens : draft.step ⟨.directive (.each collection), position⟩ = .ok inner :=
      if_pos (by omega)
    have inside := foldlM_tokensAll body inner apart
      (by simp only [inner, List.length_cons]; omega) (by simp [inner])
    have closes : Draft.step { inner with nodes := body.reverse ++ [] } ⟨.directive .close, .start⟩ =
        .ok ⟨loop collection position body :: draft.nodes, draft.opened⟩ := by
      simp [Draft.step, inner]
    rw [tokens, List.foldlM_append, List.foldlM_cons, bind_eq_ok_iff]
    refine ⟨_, bind_eq_ok_iff.mpr ⟨inner, opens, inside⟩, ?_⟩
    exact bind_eq_ok_iff.mpr ⟨_, closes, rfl⟩

/-- The tokens of nodes make them again. -/
theorem foldlM_tokensAll : (nodes : List Node) → (draft : Draft) → ApartAll nodes →
    heightAll nodes + draft.opened.length ≤ maxLoopDepth →
    (∀ last ∈ draft.nodes.head?, ∀ next ∈ nodes.head?, ¬(last.isText ∧ next.isText)) →
    (tokensAll nodes).foldlM Draft.step draft =
      .ok { draft with nodes := nodes.reverse ++ draft.nodes }
  | [] => fun draft _ _ _ => rfl
  | node :: rest => by
    intro draft ⟨first, between, later⟩ room free
    rw [heightAll] at room
    have made := foldlM_tokens node draft first (by omega) fun last member => free last member node rfl
    have after := foldlM_tokensAll rest { draft with nodes := node :: draft.nodes } later
      (by dsimp only; omega) (by simpa using between)
    rw [tokensAll, List.foldlM_append, bind_eq_ok_iff]
    exact ⟨_, made, by simpa using after⟩

end

/-- Nodes that fit and in which no texts touch are made by their own tokens. -/
theorem ofTokens_of_bare {made : List Token} {nodes : List Node} (apart : ApartAll nodes)
    (room : heightAll nodes ≤ maxLoopDepth) (same : made.map bare = tokensAll nodes) :
    ofTokens made = .ok nodes := by
  have whole := foldlM_tokensAll nodes ⟨[], []⟩ apart room (by simp)
  rw [← same, foldlM_bare, List.append_nil] at whole
  exact ofTokens_eq_ok_iff.mpr whole

/-- What a draft consists of, as tokens. -/
def tokensSoFar (nodes : List Node) : List Opened → List Token
  | [] => tokensAll nodes.reverse
  | inner :: outer =>
    tokensSoFar inner.before outer ++
      ⟨.directive (.each inner.collection), inner.position⟩ :: tokensAll nodes.reverse

/-- A node more is its tokens more. -/
theorem tokensSoFar_cons (node : Node) (nodes : List Node) (opened : List Opened) :
    tokensSoFar (node :: nodes) opened = tokensSoFar nodes opened ++ node.tokens := by
  cases opened with
  | nil => rw [tokensSoFar, tokensSoFar, List.reverse_cons, tokensAll_append, tokensAll_singleton]
  | cons inner outer =>
    rw [tokensSoFar, tokensSoFar, List.reverse_cons, tokensAll_append, tokensAll_singleton]
    simp

theorem getLast?_tokensSoFar {last : Node} {nodes : List Node} (opened : List Opened)
    (member : last ∈ nodes.head?) (text : last.isText) :
    ∃ token ∈ (tokensSoFar nodes opened).getLast?, token.isText := by
  obtain ⟨rest, rfl⟩ := List.head?_eq_some_iff.mp member
  rw [tokensSoFar_cons]
  cases last with
  | text words => exact ⟨_, List.getLast?_concat .., rfl⟩
  | value path position => cases text
  | loop collection position body => cases text

/-- A step puts its token behind what the draft consists of, unless it joins texts. -/
theorem Draft.tokens_step {draft next : Draft} {token : Token} (stepped : draft.step token = .ok next)
    (apart : ∀ last ∈ draft.nodes.head?, ¬(last.isText ∧ token.isText)) :
    tokensSoFar next.nodes next.opened =
      tokensSoFar draft.nodes draft.opened ++ [token.bare] := by
  rcases token with ⟨words | path | collection | _, position⟩
  · cases stepped
    have alone : appendText words draft.nodes = text words :: draft.nodes :=
      appendText_of_apart fun last member isText => apart last member ⟨isText, rfl⟩
    dsimp only
    rw [alone, tokensSoFar_cons]
    rfl
  · cases stepped
    exact tokensSoFar_cons _ _ _
  · simp only [Draft.step] at stepped
    split at stepped <;> cases stepped
    rfl
  · rcases draft with ⟨nodes, _ | ⟨inner, outer⟩⟩
    · cases stepped
    · cases stepped
      dsimp only
      rw [tokensSoFar_cons, tokensSoFar, Node.tokens]
      simp [bare]

/-- Tokens in which no texts touch are what the draft that they make consists of. -/
theorem tokens_of_foldlM {made : List Token} (apart : Token.Apart made) {draft : Draft}
    (stepped : made.foldlM Draft.step ⟨[], []⟩ = .ok draft) :
    tokensSoFar draft.nodes draft.opened = made.map bare := by
  induction made using List.reverseRecOn generalizing draft with
  | nil =>
    cases stepped
    rfl
  | append_singleton front token ih =>
    obtain ⟨inFront, _, between⟩ := List.isChain_append.mp apart
    rw [List.foldlM_append] at stepped
    obtain ⟨before, first, last⟩ := bind_eq_ok_iff.mp stepped
    obtain ⟨_, second, same⟩ := bind_eq_ok_iff.mp last
    cases same
    have known := ih inFront first
    rw [Draft.tokens_step second, known, List.map_append]
    · rfl
    · intro last member both
      obtain ⟨_, ends, isText⟩ := getLast?_tokensSoFar before.opened member both.1
      rw [known, List.getLast?_map] at ends
      obtain ⟨old, atEnd, rfl⟩ := Option.map_eq_some_iff.mp ends
      rw [isText_bare] at isText
      exact between old atEnd token rfl ⟨isText, both.2⟩

/-- A tree is taken apart into the tokens that made it, its texts joined. -/
theorem tokensAll_of_ofTokens {given : List Token} {nodes : List Node}
    (made : ofTokens given = .ok nodes) : tokensAll nodes = (join given).map bare := by
  rw [← ofTokens_join, ofTokens_eq_ok_iff] at made
  have whole := tokens_of_foldlM (apart_join given) made
  rwa [tokensSoFar, List.reverse_reverse] at whole

/-- No texts touch in a tree that tokens make. -/
theorem apartAll_of_ofTokens {given : List Token} {nodes : List Node}
    (made : ofTokens given = .ok nodes) : ApartAll nodes := by
  apply apartAll_of_tokensAll
  rw [tokensAll_of_ofTokens made]
  exact (List.isChain_map bare).mpr (by simpa [Token.Apart] using apart_join given)

end Node

namespace Parsed

open Token

theorem ofStream_eq_ok_iff {stream : TokenStream} {parsed : Parsed} :
    ofStream stream = .ok parsed ↔
      Node.ofTokens stream.tokens = .ok parsed.nodes ∧ stream.warnings = parsed.warnings := by
  rcases parsed with ⟨nodes, warnings⟩
  rw [ofStream]
  cases Node.ofTokens stream.tokens with
  | ok built => simp [Except.map]
  | error fault => simp [Except.map]

/-- A template taken apart is the tokens that made it, with touching texts joined: in the same order,
with their paths, and with the positions of all directives but the ends of loops. The other way
round, a tree without touching texts, and not too deep, is what its tokens make, wherever its texts
and the ends of its loops stand. No texts touch in a template. -/
theorem ofStream_flatten (stream : TokenStream) :
    (∀ parsed, ofStream stream = .ok parsed →
      Node.tokensAll parsed.nodes = (join stream.tokens).map bare ∧
      Node.flattenAll parsed.nodes = (join stream.tokens).map (·.content) ∧
      Node.ApartAll parsed.nodes) ∧
    ∀ nodes, Node.ApartAll nodes → Node.heightAll nodes ≤ maxLoopDepth →
      stream.tokens.map bare = Node.tokensAll nodes →
      ofStream stream = .ok ⟨nodes, stream.warnings⟩ := by
  constructor
  · intro parsed made
    have built := (ofStream_eq_ok_iff.mp made).1
    have whole := Node.tokensAll_of_ofTokens built
    refine ⟨whole, ?_, Node.apartAll_of_ofTokens built⟩
    rw [← Node.content_tokensAll, whole]
    simp [Function.comp_def]
  · intro nodes apart room same
    exact ofStream_eq_ok_iff.mpr ⟨Node.ofTokens_of_bare apart room same, rfl⟩

/-- Tokens in which texts touch in front of a loop and inside it. -/
def touching : List Token :=
  [⟨.text "a", ⟨⟨1, 1⟩, 0⟩⟩, ⟨.text "b", ⟨⟨1, 2⟩, 1⟩⟩, ⟨.directive (.each "jobs"), ⟨⟨1, 3⟩, 2⟩⟩,
    ⟨.directive (.value "job.title"), ⟨⟨1, 17⟩, 16⟩⟩, ⟨.text "c", ⟨⟨1, 30⟩, 29⟩⟩,
    ⟨.text "d", ⟨⟨1, 31⟩, 30⟩⟩, ⟨.directive .close, ⟨⟨1, 32⟩, 31⟩⟩]

theorem ofStream_flatten_touching :
    ∃ parsed, ofStream ⟨touching, []⟩ = .ok parsed ∧
      Node.tokensAll parsed.nodes =
        [⟨.text "ab", .start⟩, ⟨.directive (.each "jobs"), ⟨⟨1, 3⟩, 2⟩⟩,
          ⟨.directive (.value "job.title"), ⟨⟨1, 17⟩, 16⟩⟩, ⟨.text "cd", .start⟩,
          ⟨.directive .close, .start⟩] ∧
      Node.ApartAll parsed.nodes ∧
      ofStream ⟨join touching, []⟩ = .ok parsed := by
  let nodes : List Node :=
    [.text "ab", .loop "jobs" ⟨⟨1, 3⟩, 2⟩ [.value "job.title" ⟨⟨1, 17⟩, 16⟩, .text "cd"]]
  have made : ofStream ⟨touching, []⟩ = .ok ⟨nodes, []⟩ := by rfl
  obtain ⟨whole, _, apart⟩ := (ofStream_flatten ⟨touching, []⟩).1 ⟨nodes, []⟩ made
  refine ⟨⟨nodes, []⟩, made, ?_, apart, ?_⟩
  · rw [whole]
    decide
  · exact (ofStream_flatten ⟨join touching, []⟩).2 nodes apart (by decide) whole.symm

end Parsed

end Stencil
