import Mathlib.Data.List.Forall2
import Stencil.Body.Outline
import Stencil.Proofs.Body.Flattening
import Stencil.Proofs.Body.Layout
import Stencil.Render

/-! # The outline of a body

The entries of an outline are, one by one and in order, the directives among the tokens of the body
that show a value or begin a loop, each as deep as the tokens in front of it lead
(`reports_tokensAll`). Each says what rendering makes of its directive, and they stand in the body one
behind the other.
-/

namespace Stencil

namespace Token

/-- Whether a token shows a value or begins a loop. -/
def isListed (token : Token) : Bool :=
  match token.content with
  | .directive (.value _) => true
  | .directive (.each _) => true
  | _ => false

/-- The tokens that show a value or begin a loop, each with the depth of the tokens in front of
it. -/
def listed (tokens : List Token) : List (Int × Token) :=
  (tokens.zipIdx.filter (·.1.isListed)).map fun (token, i) => (depth (tokens.take i), token)

/-- A token with its depth inside some more loops. -/
def deeper (levels : Int) (token : Int × Token) : Int × Token := (levels + token.1, token.2)

@[simp] theorem listed_nil : listed [] = [] := rfl

theorem listed_cons (token : Token) (rest : List Token) :
    listed (token :: rest) =
      (if token.isListed then [(0, token)] else []) ++
        (listed rest).map (deeper (depth [token])) := by
  have later : ((rest.zipIdx 1).filter (·.1.isListed)).map
        (fun (next, i) => (depth ((token :: rest).take i), next)) =
      (listed rest).map (deeper (depth [token])) := by
    rw [List.zipIdx_succ, List.filter_map, List.map_map, listed, List.map_map]
    apply List.map_congr_left
    intro (next, i) _
    exact Prod.ext (depth_cons token (rest.take i)) rfl
  rw [listed, List.zipIdx_cons, List.filter_cons]
  split
  · rw [List.map_cons, later]
    rfl
  · rw [later]
    rfl

@[simp] theorem map_deeper_zero (tokens : List (Int × Token)) :
    tokens.map (deeper 0) = tokens := by
  have same : deeper 0 = id := funext fun token => Prod.ext (Int.zero_add _) rfl
  rw [same, List.map_id]

theorem map_deeper_deeper (a b : Int) (tokens : List (Int × Token)) :
    (tokens.map (deeper b)).map (deeper a) = tokens.map (deeper (a + b)) := by
  simp [deeper, Function.comp_def, Int.add_assoc]

theorem listed_append (front back : List Token) :
    listed (front ++ back) = listed front ++ (listed back).map (deeper (depth front)) := by
  induction front with
  | nil => simp
  | cons token rest ih =>
    rw [List.cons_append, listed_cons, listed_cons, ih, List.map_append, map_deeper_deeper,
      ← depth_cons, List.append_assoc]

@[simp] theorem depth_bare (token : Token) : depth [token.bare] = depth [token] := by
  rcases token with ⟨words | path | collection | _, position⟩ <;> rfl

theorem listed_map_bare (tokens : List Token) : listed (tokens.map bare) = listed tokens := by
  induction tokens with
  | nil => rfl
  | cons token rest ih =>
    rw [List.map_cons, listed_cons, listed_cons, ih, depth_bare]
    rcases token with ⟨words | path | collection | _, position⟩ <;> rfl

theorem listed_text_cons (words : String) (position : Position) (rest : List Token) :
    listed (⟨.text words, position⟩ :: rest) = listed rest := by
  rw [listed_cons, depth_text, map_deeper_zero]
  rfl

/-- Texts are not listed, joined or not. -/
theorem listed_join (tokens : List Token) : listed (join tokens) = listed tokens := by
  induction tokens with
  | nil => rfl
  | cons token rest ih =>
    rcases join_cons token rest with ⟨same, _⟩ | ⟨words, more, place, behind, content, tail, same⟩
    · rw [same, listed_cons, listed_cons, ih]
    · obtain ⟨_, position⟩ := token
      obtain rfl := content
      rw [same, listed_text_cons, listed_text_cons, ← ih, tail, listed_text_cons]

/-- The listed tokens are among the directives, in order. -/
theorem map_snd_listed (tokens : List Token) :
    (listed tokens).map (·.2) = tokens.filter isListed := by
  induction tokens with
  | nil => rfl
  | cons token rest ih =>
    have later : ((listed rest).map (deeper (depth [token]))).map (·.2) = rest.filter isListed := by
      rw [← ih, List.map_map]
      rfl
    rw [listed_cons, List.map_append, later, List.filter_cons]
    split <;> rfl

end Token

namespace Node

open Token

mutual

theorem depth_tokens : (node : Node) → depth node.tokens = 0
  | text words => rfl
  | value path position => rfl
  | loop collection position body => by
    rw [tokens, List.cons_append, depth_cons, depth_append, depth_tokensAll body]
    rfl

/-- All loops end that begin in a tree. -/
theorem depth_tokensAll : (nodes : List Node) → depth (tokensAll nodes) = 0
  | [] => rfl
  | node :: rest => by
    rw [tokensAll, depth_append, depth_tokens node, depth_tokensAll rest]
    rfl

end

end Node

namespace Outline

open Token

/-- What an entry says about a token and the depth of the tokens in front of it. -/
structure Entry.Reports (options : Options) (entry : Entry) (token : Int × Token) : Prop where
  depth : (entry.depth : Int) = token.1
  place : entry.place = token.2.position.toPlace
  directive : match token.2.content with
    | .directive (.value path) => entry.path = path ∧ entry.role = .value (options.hintFor path)
    | .directive (.each collection) =>
      entry.path = collection ∧ entry.role = .loop (options.aliasFor collection)
    | _ => False

mutual

/-- The entries of a node inside some loops are its listed tokens, deeper by these loops. -/
theorem reports_tokens (options : Options) (loops : List String) : (node : Node) →
    List.Forall₂ (Entry.Reports options) ((node.walk loops).filterMap (ofNode? options))
      ((listed node.tokens).map (deeper loops.length))
  | .text words => .nil
  | .value path position => by
    refine .cons ⟨?_, rfl, rfl, rfl⟩ .nil
    exact (Int.add_zero _).symm
  | .loop collection position body => by
    have inside := reports_tokensAll options (loops ++ [collection]) body
    have closing : listed [⟨.directive .close, .start⟩] = [] := rfl
    rw [Node.walk, Node.tokens, List.cons_append, listed_cons, listed_append, closing, List.map_nil,
      List.append_nil, List.map_append, map_deeper_deeper]
    rw [List.length_append] at inside
    refine .cons ⟨?_, rfl, rfl, rfl⟩ inside
    exact (Int.add_zero _).symm

theorem reports_tokensAll (options : Options) (loops : List String) : (nodes : List Node) →
    List.Forall₂ (Entry.Reports options) ((Node.walkAll loops nodes).filterMap (ofNode? options))
      ((listed (Node.tokensAll nodes)).map (deeper loops.length))
  | [] => .nil
  | node :: rest => by
    have first := reports_tokens options loops node
    have later := reports_tokensAll options loops rest
    rw [Node.walkAll, Node.tokensAll, List.filterMap_append, listed_append, Node.depth_tokens,
      map_deeper_zero, List.map_append]
    exact List.rel_append first later

end

/-- What an entry says of a node is what rendering makes of the node: an item goes by the name of the
entry, and a value is written under its hint. -/
def Entry.Governs (options : Options) (entry : Entry) : Node → Prop
  | .text _ => False
  | .value path position =>
    entry.path = path ∧ entry.place = position.toPlace ∧ ∃ hint, entry.role = .value hint ∧
      ∀ (progress : Progress) (value : Value), progress.scope.resolve? path = some value →
        value.keys? = none → Node.render options progress (.value path position) =
          progress.write (escapeMarkup (value.format options hint))
  | .loop collection position body =>
    entry.path = collection ∧ entry.place = position.toPlace ∧ ∃ name, entry.role = .loop name ∧
      ∀ (progress : Progress) (items : List Value),
        progress.scope.resolve? collection = some (.list items) →
        Node.render options progress (.loop collection position body) =
          items.foldl (fun progress item =>
            (Node.renderAll options (progress.enter ⟨collection, name, item⟩) body).leave) progress

theorem governs_of_ofNode? {options : Options} (loops : List String) {node : Node} {entry : Entry}
    (made : ofNode? options (loops, node) = some entry) : entry.Governs options node := by
  cases node with
  | text words => cases made
  | value path position =>
    cases made
    refine ⟨rfl, rfl, _, rfl, fun progress value found scalar => ?_⟩
    rw [Node.render, Progress.renderValue, found]
    cases value with
    | map entries => cases scalar
    | _ => rfl
  | loop collection position body =>
    cases made
    refine ⟨rfl, rfl, _, rfl, fun progress items found => ?_⟩
    rw [Node.render, Progress.loopItems, found]

theorem governs_walk (options : Options) (walked : List (List String × Node)) :
    List.Forall₂ (Entry.Governs options) (walked.filterMap (ofNode? options))
      ((walked.map (·.2)).filter (!·.isText)) := by
  induction walked with
  | nil => exact .nil
  | cons first rest ih =>
    obtain ⟨loops, node⟩ := first
    cases node with
    | text words => exact ih
    | value path position => exact .cons (governs_of_ofNode? loops rfl) ih
    | loop collection position body => exact .cons (governs_of_ofNode? loops rfl) ih

/-- A directive that begins further behind stands further down or further to the right. -/
theorem Occurrence.before_of_length_lt {body : List Char} {a b : Occurrence body}
    (less : a.before.length < b.before.length) :
    (Position.behind a.before).toPlace.Before (Position.behind b.before).toPlace := by
  have front (o : Occurrence body) : o.before <+: body :=
    ⟨_, (List.append_assoc ..).symm.trans o.whole⟩
  exact Position.behind_before_of_length_lt (front a) (front b) less

/-- The listed directives of a body stand one behind the other. -/
theorem places_pairwise (body : String) :
    ((listed (scan body).tokens).map (·.2.position.toPlace)).Pairwise Place.Before := by
  obtain ⟨layout, cut⟩ := Layout.exists_layout body.toList
  have ordered : ((scan body).tokens.filter (·.content.isDirective)).Pairwise
      fun token next => token.position.toPlace.Before next.position.toPlace := by
    rw [filter_scan cut, List.pairwise_map]
    exact layout.occurrences_pairwise.imp Occurrence.before_of_length_lt
  have among : ((scan body).tokens.filter isListed).Sublist
      ((scan body).tokens.filter (·.content.isDirective)) := by
    apply List.monotone_filter_right
    rintro ⟨words | directive, position⟩ isListed
    · cases isListed
    · rfl
  have listed := ordered.sublist among
  rw [← map_snd_listed, List.pairwise_map] at listed
  exact List.pairwise_map.mpr listed

/-- The outline of a body that parses has an entry for each token that shows a value or begins a loop,
in their order, with its path and place and the depth of the tokens in front of it. What an entry
says is what rendering makes of the directive, and the places grow from entry to entry. -/
theorem ofParsed_listed {body : String} {parsed : Parsed} (made : Parsed.ofBody body = .ok parsed)
    (options : Options) :
    List.Forall₂ (Entry.Reports options) (ofParsed options parsed) (listed (scan body).tokens) ∧
    List.Forall₂ (Entry.Governs options) (ofParsed options parsed)
      ((parsed.walk.map (·.2)).filter (!·.isText)) ∧
    (ofParsed options parsed).Pairwise fun entry next => entry.place.Before next.place := by
  have built := (Parsed.ofStream_eq_ok_iff.mp made).1
  have reports : List.Forall₂ (Entry.Reports options) (ofParsed options parsed)
      (listed (scan body).tokens) := by
    have whole := reports_tokensAll options [] parsed.nodes
    rw [Node.tokensAll_of_ofTokens built, listed_map_bare, listed_join] at whole
    rwa [show ((([] : List String).length : Nat) : Int) = 0 from rfl, map_deeper_zero] at whole
  refine ⟨reports, governs_walk options parsed.walk, ?_⟩
  have places : (ofParsed options parsed).map (·.place) =
      (listed (scan body).tokens).map (·.2.position.toPlace) := by
    rw [← List.forall₂_eq_eq_eq, List.forall₂_map_left_iff, List.forall₂_map_right_iff]
    exact reports.imp fun _ _ report => report.place
  rw [← List.pairwise_map (R := Place.Before), places]
  exact places_pairwise body

/-- A body with a value inside a loop, behind a stray brace and on a line of its own. -/
def strayBrace : String :=
  "é\x7b\x7b#each jobs\x7d\x7d\n \x7b\x7b\x7bjob.price\x7d\x7d\x7b\x7b/each\x7d\x7d"

theorem ofParsed_listed_strayBrace :
    ∃ parsed, Parsed.ofBody strayBrace = .ok parsed ∧
      ofParsed {} parsed =
        [⟨"jobs", .loop "job", 0, ⟨1, 2⟩⟩, ⟨"job.price", .value .currency, 1, ⟨2, 3⟩⟩] ∧
      List.Forall₂ (Entry.Reports {}) (ofParsed {} parsed) (listed (scan strayBrace).tokens) ∧
      List.Forall₂ (Entry.Governs {}) (ofParsed {} parsed)
        ((parsed.walk.map (·.2)).filter (!·.isText)) ∧
      (ofParsed {} parsed).Pairwise fun entry next => entry.place.Before next.place := by
  have outlined : (Parsed.ofBody strayBrace).toOption.map (ofParsed {}) =
      some [⟨"jobs", .loop "job", 0, ⟨1, 2⟩⟩, ⟨"job.price", .value .currency, 1, ⟨2, 3⟩⟩] := by
    decide +kernel
  cases made : Parsed.ofBody strayBrace with
  | ok parsed =>
    rw [made] at outlined
    exact ⟨parsed, rfl, Option.some.inj outlined, ofParsed_listed made {}⟩
  | error fault =>
    rw [made] at outlined
    cases outlined

end Outline

end Stencil
