import HybridSearch.Http.Client
import HybridSearch.Proofs.Json
import HybridSearch.Proofs.JsonTexts
import Mathlib.Data.List.Forall2
import Mathlib.Tactic.SplitIfs

/-!
# What a record says

A record is decoded exactly when it is a record and its declared members have the shapes that are
asked for, and it is made of what they say. Where a member stands depends on how the record is
written: under its name in an object, in the place of its name in an array.
-/

namespace HybridSearch

variable {α β : Type}

/-- What holds of all elements on one side holds of all on the other. -/
theorem forall_mem_iff_of_forall₂ {R : α → β → Prop} {p : α → Prop} {q : β → Prop} {as : List α}
    {bs : List β} (hall : List.Forall₂ R as bs) (hiff : ∀ a b, R a b → (p a ↔ q b)) :
    (∀ a ∈ as, p a) ↔ ∀ b ∈ bs, q b := by
  induction hall with
  | nil => simp
  | cons hfirst _ ih => simp [hiff _ _ hfirst, ih]

namespace Decoded

variable {x : Decoded α} {b : β}

theorem map_eq_ok {f : α → β} : f <$> x = Decoded.ok b ↔ ∃ a, x = .ok a ∧ f a = b := by
  cases x with
  | error fault => exact ⟨nofun, nofun⟩
  | ok a =>
    refine ⟨fun h => ⟨a, rfl, Except.ok.inj h⟩, ?_⟩
    rintro ⟨_, ha, rfl⟩
    cases ha
    rfl

theorem seq_eq_ok {g : Decoded (α → β)} :
    g <*> x = Decoded.ok b ↔ ∃ f a, g = .ok f ∧ x = .ok a ∧ f a = b := by
  cases g with
  | error fault => cases x <;> exact ⟨nofun, nofun⟩
  | ok f =>
    cases x with
    | error fault => exact ⟨nofun, nofun⟩
    | ok a =>
      refine ⟨fun h => ⟨f, a, rfl, rfl, Except.ok.inj h⟩, ?_⟩
      rintro ⟨_, _, hf, ha, rfl⟩
      cases hf
      cases ha
      rfl

/-- Something is decoded. -/
def Succeeds (x : Decoded α) : Prop := ∃ a, x = .ok a

theorem succeeds_map {f : α → β} : (f <$> x).Succeeds ↔ x.Succeeds := by
  simp only [Succeeds, map_eq_ok]
  exact ⟨fun ⟨_, a, ha, _⟩ => ⟨a, ha⟩, fun ⟨a, ha⟩ => ⟨f a, a, ha, rfl⟩⟩

theorem succeeds_seq {g : Decoded (α → β)} : (g <*> x).Succeeds ↔ g.Succeeds ∧ x.Succeeds := by
  simp only [Succeeds, seq_eq_ok]
  constructor
  · rintro ⟨_, f, a, hf, ha, -⟩
    exact ⟨⟨f, hf⟩, a, ha⟩
  · rintro ⟨⟨f, hf⟩, a, ha⟩
    exact ⟨f a, f, a, hf, ha, rfl⟩

/-- A check ahead of something that is decoded. -/
theorem check_eq_ok {refused : Prop} [Decidable refused] {fault : Fault} {u : Unit} :
    (if refused then Decoded.fail fault else .ok ()) = .ok u ↔ ¬ refused := by
  split_ifs with hrefused
  · exact iff_of_false nofun (not_not.mpr hrefused)
  · exact iff_of_true rfl hrefused

end Decoded

namespace Reading

/-- The member of a record that is written under a name. -/
def member? (names : List String) (name : String) : Reading → Option Reading
  | .arr items => (names.zip items).lookup name
  | .obj members => members.lookup name
  | _ => none

def isNull : Reading → Bool
  | .null => true
  | _ => false

/-- A member of a record that is there and is not null. -/
def stated? (names : List String) (name : String) (r : Reading) : Option Reading :=
  (r.member? names name).filter (!·.isNull)

def items? : Reading → Option (List Reading)
  | .arr items => some items
  | _ => none

/-- A value is the one that a member states, or the given one where there is no member. -/
def SaidOr (states : Reading → α → Prop) (absent : α) : Option Reading → α → Prop
  | some r, a => states r a
  | none, a => a = absent

theorem SaidOr.imp {states states' : Reading → α → Prop} {absent a : α} {member : Option Reading}
    (hsaid : SaidOr states absent member a) (himp : ∀ r, states r a → states' r a) :
    SaidOr states' absent member a := by
  cases member with
  | none => exact hsaid
  | some r => exact himp r hsaid

/-- An object that has no declared member twice. -/
def IsObject (names : List String) : Reading → Prop
  | .obj members => ((members.map (·.1)).filter (· ∈ names)).Nodup
  | _ => False

/-- A record is such an object, or an array of no more members than are declared. -/
def IsRecord (names : List String) : Reading → Prop
  | .arr items => items.length ≤ names.length
  | r => IsObject names r

instance (names : List String) : DecidablePred (IsObject names)
  | .obj _ => inferInstanceAs (Decidable (List.Nodup _))
  | .arr _ | .null | .bool _ | .int _ | .float _ | .str _ | .broken =>
    inferInstanceAs (Decidable False)

instance (names : List String) : DecidablePred (IsRecord names)
  | .arr _ => inferInstanceAs (Decidable (_ ≤ _))
  | .obj members => inferInstanceAs (Decidable (IsObject names (.obj members)))
  | .null | .bool _ | .int _ | .float _ | .str _ | .broken =>
    inferInstanceAs (Decidable False)

/-- A record that is written as the array of its members. -/
def isPositional : Reading → Bool
  | .arr _ => true
  | _ => false

def MustHave (names : List String) (name : String) (shape : Reading → Prop) (r : Reading) : Prop :=
  ∃ value, r.member? names name = some value ∧ shape value

/-- A member may be left out, but where it is there it has its shape. -/
def MayHave (names : List String) (name : String) (shape : Reading → Prop) (r : Reading) : Prop :=
  ∀ value, r.member? names name = some value → shape value

/-- A member may be null, or left out of an object. -/
def MayState (names : List String) (name : String) (shape : Reading → Prop) (r : Reading) : Prop :=
  (r.isPositional → (r.member? names name).isSome)
    ∧ ∀ value, r.stated? names name = some value → shape value

mutual

/-- No number in a value is beyond the doubles. -/
def inRange : Reading → Bool
  | .float x => x.isFinite
  | .arr items => itemsInRange items
  | .obj members => membersInRange members
  | _ => true

def itemsInRange : List Reading → Bool
  | [] => true
  | r :: rest => r.inRange && itemsInRange rest

def membersInRange : List (String × Reading) → Bool
  | [] => true
  | (_, r) :: rest => r.inRange && membersInRange rest

end

variable {decode : Reading → Decoded α} {names : List String} {name : String} {r : Reading}

/-! ### Parts of what is not broken -/

theorem membersHaveBreak_eq_false_iff {members : List (String × Reading)} :
    membersHaveBreak members = false ↔ ∀ m ∈ members, m.2.hasBreak = false := by
  induction members with
  | nil => simp [membersHaveBreak]
  | cons first rest ih => simp [membersHaveBreak, ih]

theorem mismatch_ne_ok (r : Reading) (a : α) : r.mismatch ≠ Decoded.ok a := by
  cases r with
  | float x =>
    rw [mismatch]
    split_ifs <;> nofun
  | _ => nofun

theorem closeRecord_eq_ok {x : Decoded α} {a : α} : closeRecord x = .ok a ↔ x = .ok a := by
  cases x with
  | error fault => cases fault <;> exact ⟨nofun, nofun⟩
  | ok a => exact Iff.rfl

theorem repeated_eq_false_iff {found : List String} : repeated found = false ↔ found.Nodup := by
  induction found with
  | nil => simp [repeated]
  | cons first rest ih => simp [repeated, ih]

/-- Members under other names do not hide the one under a name. -/
theorem lookup_filter (hname : name ∈ names) (members : List (String × Reading)) :
    (members.filter fun m => names.contains m.1).lookup name = members.lookup name := by
  induction members with
  | nil => rfl
  | cons m rest ih =>
    obtain ⟨other, r⟩ := m
    by_cases hsame : name = other
    · subst hsame
      simp [hname]
    · rw [List.filter_cons, List.lookup_cons, beq_eq_false_iff_ne.mpr hsame]
      split_ifs
      · rw [List.lookup_cons, beq_eq_false_iff_ne.mpr hsame]
        exact ih
      · exact ih

/-- The declared members of a record as a decoder finds them. -/
def declared (names : List String) : Reading → Record
  | .arr items => ⟨names.zip items, [], true⟩
  | .obj members =>
    ⟨members.filter fun m => names.contains m.1, members.filter fun m => !names.contains m.1, false⟩
  | _ => ⟨[], [], false⟩

theorem lookup_declared (hname : name ∈ names) (r : Reading) :
    (r.declared names).found.lookup name = r.member? names name := by
  cases r with
  | obj members => exact lookup_filter hname members
  | _ => rfl

variable {build : Record → Decoded α} {a : α}

theorem object_eq_ok (hwhole : r.hasBreak = false) :
    object names build r = .ok a ↔ IsObject names r ∧ build (r.declared names) = .ok a := by
  cases r with
  | obj members =>
    have hothers : membersHaveBreak (members.filter fun m => !names.contains m.1) = false :=
      membersHaveBreak_eq_false_iff.mpr fun m hm =>
        membersHaveBreak_eq_false_iff.mp hwhole m (List.mem_of_mem_filter hm)
    have honce : repeated ((members.filter fun m => names.contains m.1).map (·.1)) = false
        ↔ IsObject names (.obj members) := by
      rw [repeated_eq_false_iff, IsObject, List.filter_map]
      simp [Function.comp_def]
    rw [object, closeRecord_eq_ok, ← honce]
    simp only [Decoded.seq_eq_ok, Decoded.map_eq_ok, Decoded.check_eq_ok, hothers,
      Bool.not_eq_true]
    constructor
    · rintro ⟨_, _, ⟨_, _, ⟨_, hnodup, rfl⟩, -, rfl⟩, hbuild, rfl⟩
      exact ⟨hnodup, hbuild⟩
    · rintro ⟨hnodup, hbuild⟩
      exact ⟨_, a, ⟨_, (), ⟨(), hnodup, rfl⟩, trivial, rfl⟩, hbuild, rfl⟩
  | float x => exact iff_of_false (mismatch_ne_ok (.float x) a) fun h => h.1.elim
  | _ => exact iff_of_false (by rintro ⟨⟩) fun h => h.1.elim

theorem record_eq_ok (hwhole : r.hasBreak = false) :
    record names build r = .ok a ↔ IsRecord names r ∧ build (r.declared names) = .ok a := by
  cases r with
  | arr items =>
    rw [record, closeRecord_eq_ok, IsRecord, ← Nat.not_lt]
    simp only [Decoded.seq_eq_ok, Decoded.map_eq_ok, Decoded.check_eq_ok]
    constructor
    · rintro ⟨_, _, ⟨_, hfits, rfl⟩, hbuild, rfl⟩
      exact ⟨hfits, hbuild⟩
    · rintro ⟨hfits, hbuild⟩
      exact ⟨_, a, ⟨(), hfits, rfl⟩, hbuild, rfl⟩
  | _ => exact object_eq_ok hwhole

theorem required_eq_ok (hname : name ∈ names) :
    (r.declared names).required name decode = .ok a ↔
      ∃ value, r.member? names name = some value ∧ decode value = .ok a := by
  rw [Record.required, lookup_declared hname]
  cases hmember : r.member? names name with
  | none => exact ⟨nofun, nofun⟩
  | some value => simp

theorem listOf_eq_ok {items : List Reading} {as : List α} :
    listOf decode items = .ok as ↔ List.Forall₂ (fun r a => decode r = .ok a) items as := by
  induction items generalizing as with
  | nil =>
    rw [List.forall₂_nil_left_iff]
    exact ⟨fun h => (Except.ok.inj h).symm, fun h => congrArg Except.ok h.symm⟩
  | cons r rest ih =>
    rw [listOf, List.forall₂_cons_left_iff]
    simp only [Decoded.seq_eq_ok, Decoded.map_eq_ok, ih]
    constructor
    · rintro ⟨_, later, ⟨a, hfirst, rfl⟩, hlater, rfl⟩
      exact ⟨a, later, hfirst, hlater, rfl⟩
    · rintro ⟨a, later, hfirst, hlater, rfl⟩
      exact ⟨_, later, ⟨a, hfirst, rfl⟩, hlater, rfl⟩

theorem list_eq_ok {as : List α} :
    list decode r = .ok as ↔
      ∃ items, r = .arr items ∧ List.Forall₂ (fun r a => decode r = .ok a) items as := by
  cases r with
  | arr items => simp [list, listOf_eq_ok]
  | float x => exact iff_of_false (mismatch_ne_ok (.float x) as) nofun
  | _ => exact ⟨nofun, nofun⟩

/-- A double, which may be written as a whole number. -/
def IsDouble (r : Reading) (x : Float) : Prop :=
  (∃ n, r = .int n ∧ x = .ofInt n) ∨ r = .float x ∧ x.isFinite

theorem ofText_eq_ok {text : String} :
    ofText decode text = .ok a ↔ ∃ r, Spells text r ∧ decode r = .ok a := by
  simp only [ofText, Decoded.seq_eq_ok, Decoded.map_eq_ok]
  constructor
  · rintro ⟨_, _, ⟨_, hdecode, rfl⟩, hwhole, rfl⟩
    have hcomplete : (document text).complete = true := by
      cases hdone : (document text).complete with
      | true => rfl
      | false =>
        rw [hdone] at hwhole
        cases hwhole
    have hdocument : document text = ⟨(document text).value, true⟩ := by rw [← hcomplete]
    exact ⟨_, document_eq_iff.mp hdocument, hdecode⟩
  · rintro ⟨r, hspells, hdecode⟩
    rw [document_eq_iff.mpr hspells]
    exact ⟨_, (), ⟨a, hdecode, rfl⟩, rfl, rfl⟩

/-! ### What is decoded -/

section

variable {shape : Reading → Prop}

end

mutual

/-- A value that is not broken can be taken as it stands unless a number in it is out of range. -/
theorem succeeds_json (r : Reading) (hwhole : r.hasBreak = false) :
    r.json.Succeeds ↔ r.inRange := by
  match r with
  | .float x =>
    rw [json, inRange]
    split_ifs with hfinite
    · exact iff_of_true ⟨_, rfl⟩ hfinite
    · exact iff_of_false nofun hfinite
  | .arr items =>
    rw [json, inRange, Decoded.succeeds_map]
    exact succeeds_itemsJson items hwhole
  | .obj members =>
    rw [json, inRange, Decoded.succeeds_map]
    exact succeeds_membersJson members hwhole
  | .null | .bool _ | .int _ | .str _ => exact iff_of_true ⟨_, rfl⟩ rfl

theorem succeeds_itemsJson (items : List Reading) (hwhole : itemsHaveBreak items = false) :
    (itemsJson items).Succeeds ↔ itemsInRange items := by
  match items with
  | [] => exact iff_of_true ⟨_, rfl⟩ rfl
  | first :: rest =>
    obtain ⟨hfirst, hrest⟩ := Bool.or_eq_false_iff.mp hwhole
    rw [itemsJson, itemsInRange, Decoded.succeeds_seq, Decoded.succeeds_map,
      succeeds_json first hfirst, succeeds_itemsJson rest hrest, Bool.and_eq_true]

theorem succeeds_membersJson (members : List (String × Reading))
    (hwhole : membersHaveBreak members = false) :
    (membersJson members).Succeeds ↔ membersInRange members := by
  match members with
  | [] => exact iff_of_true ⟨_, rfl⟩ rfl
  | (name, first) :: rest =>
    obtain ⟨hfirst, hrest⟩ := Bool.or_eq_false_iff.mp hwhole
    rw [membersJson, membersInRange, Decoded.succeeds_seq, Decoded.succeeds_map,
      succeeds_json first hfirst, succeeds_membersJson rest hrest, Bool.and_eq_true]

end

end Reading

/-- A service answers with what it decodes of a reply that is a success. -/
theorem Http.ask_eq_ok_iff {network : Network} {w : Wording} {decode : Reading → Decoded α}
    {request : Request} {a : α} :
    ask network w decode request = .ok a ↔ ∃ reply, network request = some reply
      ∧ reply.isSuccess ∧ Reading.ofText decode reply.body = .ok a := by
  rw [ask]
  cases hreply : network request with
  | none => exact ⟨nofun, nofun⟩
  | some reply =>
    simp only [readReply, Option.some.injEq, exists_eq_left']
    cases hsuccess : reply.isSuccess with
    | false => exact ⟨nofun, nofun⟩
    | true =>
      cases hread : Reading.ofText decode reply.body with
      | error fault => exact ⟨nofun, nofun⟩
      | ok read =>
        refine ⟨fun h => ?_, fun h => ?_⟩
        · cases h
          exact ⟨rfl, rfl⟩
        · cases h.2
          rfl

end HybridSearch
