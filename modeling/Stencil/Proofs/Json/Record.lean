import Stencil.Json.Record
import Stencil.Proofs.Calendar.Iso
import Stencil.Proofs.Json.Draft

/-! # Records read back from JSON

What a reader gets from a JSON value that was written without whitespace follows the value: a text,
a date or a double from the value itself, something that may be absent, a list and a record from
their parts. A record is got back if its members stand in the order of its fields, each under the
name of its field.
-/

namespace Stencil.Json.Reader

variable {α σ : Type} {read : Reader α}

/-- A reader gets a value from what a JSON value tells when it is written. -/
def Reads (read : Reader α) (json : Json) (a : α) : Prop :=
  ∃ draft, Tells json.compact draft ∧ read draft = .ok a

/-- The double that a text stands for if it is one number. -/
def double? (chars : List Char) : Option Float := do
  let (numeral, rest) ← Numeral.read? chars
  let n ← numeral.value?
  if rest = [] then some n.toFloat else none

/-- Whether the text that is written for a double stands for this double. Reading takes a shortcut
that can miss the nearest double, so this depends on the double. -/
def ReadsBack (x : Float) : Prop := double? (Number.float x).text = some x

instance (x : Float) : Decidable (ReadsBack x) := inferInstanceAs (Decidable (_ = _))

theorem reads_text (s : String) : Reads text (.string s) s :=
  ⟨.string (some s), tells_string s, rfl⟩

theorem reads_date (day : Date) : Reads date (.string day.iso) day := by
  refine ⟨.string (some day.iso), tells_string day.iso, ?_⟩
  simp [date, Date.ofWholeText_iso, Except.mapError]

theorem reads_float {x : Float} (back : ReadsBack x) : Reads float (.number (.float x)) x := by
  simp only [ReadsBack, double?, Option.bind_eq_bind, Option.bind_eq_some_iff] at back
  obtain ⟨⟨numeral, rest⟩, whole, n, value, same⟩ := back
  split at same
  · next empty =>
    cases same
    cases empty
    refine ⟨.number numeral, tells_number whole, ?_⟩
    simp [float, value]
  · cases same

/-- What may be absent is got back by a reader that does not expect `null`. -/
theorem reads_optional (strict : ∃ expected, read .null = Draft.null.unexpected expected)
    {encode : α → Json} {found : Option α} (each : ∀ a ∈ found, Reads read (encode a) a) :
    Reads (optional read) (ofOption encode found) found := by
  cases found with
  | none => exact ⟨.null, tells_null, rfl⟩
  | some a =>
    obtain ⟨draft, told, same⟩ := each a rfl
    refine ⟨draft, told, ?_⟩
    cases draft with
    | null =>
      obtain ⟨expected, refused⟩ := strict
      cases refused.symm.trans same
    | _ => simp [optional, same, Except.map]

/-- A list is got back item by item. -/
theorem reads_list {encode : α → Json} {items : List α}
    (each : ∀ a ∈ items, Reads read (encode a) a) :
    Reads (list read) (.array (items.map encode)) items := by
  have drafts : ∃ drafts, List.Forall₂ (fun item draft => Tells item.compact draft)
      (items.map encode) drafts ∧ drafts.mapM read = .ok items := by
    induction items with
    | nil => exact ⟨[], .nil, rfl⟩
    | cons a items ih =>
      obtain ⟨draft, told, same⟩ := each a List.mem_cons_self
      obtain ⟨drafts, toldAll, sameAll⟩ := ih fun b member => each b (List.mem_cons_of_mem a member)
      refine ⟨draft :: drafts, .cons told toldAll, ?_⟩
      simp [List.mapM_cons, same, sameAll, bind, Except.bind, pure, Except.pure]
  obtain ⟨drafts, told, same⟩ := drafts
  refine ⟨.array drafts true, tells_array told, ?_⟩
  simp [list, same, bind, Except.bind, pure, Except.pure]

/-- The members of an object fill the fields of a record one by one: each has the name of its field
and holds what is put there. -/
inductive Fills : List (RecordField σ) → List (String × Json) → σ → σ → Prop
  | nil (record : σ) : Fills [] [] record record
  | cons {α : Type} {read : Reader α} {json : Json} {a : α} {name : String} {required : Bool}
      {put : α → σ → σ} {fields : List (RecordField σ)} {members : List (String × Json)}
      {record filled : σ} (reads : Reads read json a)
      (others : Fills fields members (put a record) filled) :
      Fills (field name required read put :: fields) ((name, json) :: members) record filled

/-- The names of the fields of a record. -/
def names (fields : List (RecordField σ)) : List String := fields.map (·.name)

theorem name_mem_names {fields : List (RecordField σ)} {found : RecordField σ}
    (member : found ∈ fields) : found.name ∈ names fields :=
  List.mem_map_of_mem member

theorem find?_of_mem {fields : List (RecordField σ)} (distinct : (names fields).Nodup)
    {found : RecordField σ} (member : found ∈ fields) :
    fields.find? (·.name = found.name) = some found := by
  induction fields with
  | nil => cases member
  | cons first fields ih =>
    rw [names, List.map_cons, List.nodup_cons] at distinct
    rcases List.mem_cons.mp member with rfl | later
    · simp
    · have other : first.name ≠ found.name := by
        intro same
        exact distinct.1 (same ▸ name_mem_names later)
      simpa [other] using ih distinct.2 later

/-- The members that fill some fields are read one after the other. -/
theorem Fills.exists_entries {all fields : List (RecordField σ)} {given : List (String × Json)}
    {record filled : σ} (fills : Fills fields given record filled)
    (known : ∀ f ∈ fields, all.find? (·.name = f.name) = some f)
    (distinct : (names fields).Nodup) :
    ∃ entries, List.Forall₂ TellsMember given entries ∧
      ∀ seen, (∀ f ∈ fields, f.name ∉ seen) →
        members all seen record entries = .ok ((names fields).reverse ++ seen, filled) := by
  induction fills with
  | nil record => exact ⟨[], .nil, fun seen _ => rfl⟩
  | @cons α read json a name required put fields given record filled reads others ih =>
    obtain ⟨draft, told, same⟩ := reads
    rw [names, List.map_cons, List.nodup_cons] at distinct
    obtain ⟨entries, toldAll, filledAll⟩ :=
      ih (fun f member => known f (List.mem_cons_of_mem _ member)) distinct.2
    refine ⟨(some name, draft) :: entries, .cons ⟨rfl, told⟩ toldAll, ?_⟩
    intro seen fresh
    have found := known _ List.mem_cons_self
    have unseen : name ∉ seen := fresh _ List.mem_cons_self
    have later : ∀ f ∈ fields, f.name ∉ name :: seen := by
      intro f member
      rw [List.mem_cons, not_or]
      refine ⟨?_, fresh f (List.mem_cons_of_mem _ member)⟩
      intro again
      have named := name_mem_names member
      rw [again] at named
      exact distinct.1 named
    change all.find? (·.name = name) = _ at found
    simp only [members, found, if_neg unseen]
    simp only [field, same, Except.map, bind, Except.bind, filledAll (name :: seen) later]
    simp [names]

/-- A record is got back from the members that fill its fields. -/
theorem reads_record {name : String} {fields : List (RecordField σ)} {given : List (String × Json)}
    {blank filled : σ} (distinct : (names fields).Nodup)
    (fills : Fills fields given blank filled) :
    Reads (record name fields blank) (.object given) filled := by
  obtain ⟨entries, told, filledAll⟩ :=
    fills.exists_entries (fun f member => find?_of_mem distinct member) distinct
  have read := filledAll [] fun f _ => List.not_mem_nil
  have complete : fields.find? (fun f => f.required &&
      !((names fields).reverse ++ []).contains f.name) = none := by
    rw [List.find?_eq_none]
    intro f member
    simp [name_mem_names member]
  refine ⟨.object entries true, tells_object told, ?_⟩
  simp only [record, read, bind, Except.bind, Bool.not_true, Bool.false_eq_true, if_false, complete]
  rfl

/-- What a reader gets from a value it gets from the text of that value. -/
theorem Reads.ofText {json : Json} {a : α} (reads : Reads read json a) :
    Reader.ofText read json.toCompact = .ok a := by
  obtain ⟨draft, told, same⟩ := reads
  simp [Reader.ofText, Draft.ofText_toCompact told, same, bind, Except.bind, pure, Except.pure]

end Stencil.Json.Reader
