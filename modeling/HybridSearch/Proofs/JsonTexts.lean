import HybridSearch.Json.Decode
import HybridSearch.Proofs.JsonTokens

/-!
# Texts that spell a value

How a value is written down is said here from the value to its tokens: commas stand between the
parts of a container, and none after the last. A text spells a value when it writes these tokens and
no part of the value lies too deep. A document is read whole exactly when its text spells a value,
and then as that value.
-/

namespace HybridSearch.Reading

open Scan (Token)

/-! ### How a value is written -/

mutual

/-- The tokens that write a value. -/
def written : Reading → List Token
  | .arr items => .openArray :: (itemsWritten items ++ [.closeArray])
  | .obj members => .openObject :: (membersWritten members ++ [.closeObject])
  | .broken => [.bad]
  | r => [.scalar r]

def itemsWritten : List Reading → List Token
  | [] => []
  | [r] => r.written
  | r :: next :: rest => r.written ++ .comma :: itemsWritten (next :: rest)

def membersWritten : List (String × Reading) → List Token
  | [] => []
  | [(name, r)] => .scalar (.str name) :: .colon :: r.written
  | (name, r) :: next :: rest =>
    .scalar (.str name) :: .colon :: (r.written ++ .comma :: membersWritten (next :: rest))

end

mutual

/-- How many containers are open around the innermost part of a value. -/
def nesting : Reading → Nat
  | .arr items => itemsNesting items + 1
  | .obj members => membersNesting members + 1
  | _ => 0

def itemsNesting : List Reading → Nat
  | [] => 0
  | r :: rest => max r.nesting (itemsNesting rest)

def membersNesting : List (String × Reading) → Nat
  | [] => 0
  | (_, r) :: rest => max r.nesting (membersNesting rest)

end

/-- A text spells a value when it writes the tokens of the value and nothing more. -/
structure Spells (text : String) (r : Reading) : Prop where
  tokens : Writes text.toList r.written
  nested : r.nesting ≤ depthLimit
  whole : r.hasBreak = false

variable {r : Reading} {ts : List Token} {depth : Nat}

theorem itemsWritten_singleton (r : Reading) : itemsWritten [r] = r.written := by
  rw [itemsWritten]

theorem membersWritten_singleton (name : String) (r : Reading) :
    membersWritten [(name, r)] = .scalar (.str name) :: .colon :: r.written := by
  rw [membersWritten]

theorem itemsWritten_cons {items : List Reading} (hitems : items ≠ []) (r : Reading) :
    itemsWritten (r :: items) = r.written ++ .comma :: itemsWritten items := by
  obtain ⟨next, rest, rfl⟩ := List.exists_cons_of_ne_nil hitems
  rw [itemsWritten]

theorem membersWritten_cons {members : List (String × Reading)} (hmembers : members ≠ [])
    (name : String) (r : Reading) :
    membersWritten ((name, r) :: members)
      = .scalar (.str name) :: .colon :: (r.written ++ .comma :: membersWritten members) := by
  obtain ⟨next, rest, rfl⟩ := List.exists_cons_of_ne_nil hmembers
  rw [membersWritten]

/-! ### The tokens of a value are set apart -/

/-- Neither a value nor a place where none can be read. -/
def isMark : Token → Bool
  | .scalar _ | .bad => false
  | _ => true

theorem Apart.nil : Apart [] := ⟨List.not_mem_nil, .nil⟩

theorem Apart.scalar (r : Reading) : Apart [.scalar r] := ⟨by simp, .singleton _⟩

/-- A mark sets apart what stands on its two sides. -/
theorem Apart.join {us : List Token} {mark : Token} (hts : Apart ts) (hmark : isMark mark)
    (hus : Apart us) : Apart (ts ++ mark :: us) where
  readable := by
    rw [List.mem_append, List.mem_cons]
    rintro (hbad | rfl | hbad)
    · exact hts.readable hbad
    · cases hmark
    · exact hus.readable hbad
  marked := by
    have hvalue : isValue mark = false := by cases mark <;> first | rfl | cases hmark
    rw [List.isChain_append, List.isChain_cons]
    refine ⟨hts.marked, ⟨fun _ _ h => ?_, hus.marked⟩, fun _ _ next hnext h => ?_⟩
    · exact Bool.false_ne_true (hvalue.symm.trans h.1)
    · obtain rfl := Option.some.inj hnext
      exact Bool.false_ne_true (hvalue.symm.trans h.2)

mutual

theorem apart_written (r : Reading) (hwhole : r.hasBreak = false) : Apart r.written := by
  match r with
  | .arr items => exact Apart.nil.join rfl ((apart_itemsWritten items hwhole).join rfl .nil)
  | .obj members => exact Apart.nil.join rfl ((apart_membersWritten members hwhole).join rfl .nil)
  | .null | .bool _ | .int _ | .float _ | .str _ => exact .scalar _

theorem apart_itemsWritten (items : List Reading) (hwhole : itemsHaveBreak items = false) :
    Apart (itemsWritten items) := by
  match items with
  | [] => exact .nil
  | [r] =>
    rw [itemsHaveBreak, itemsHaveBreak, Bool.or_false] at hwhole
    exact apart_written r hwhole
  | r :: next :: rest =>
    rw [itemsHaveBreak, Bool.or_eq_false_iff] at hwhole
    exact (apart_written r hwhole.1).join rfl (apart_itemsWritten (next :: rest) hwhole.2)

theorem apart_membersWritten (members : List (String × Reading))
    (hwhole : membersHaveBreak members = false) : Apart (membersWritten members) := by
  match members with
  | [] => exact .nil
  | [(name, r)] =>
    rw [membersHaveBreak, membersHaveBreak, Bool.or_false] at hwhole
    exact (Apart.scalar (.str name)).join rfl (apart_written r hwhole)
  | (name, r) :: next :: rest =>
    rw [membersHaveBreak, Bool.or_eq_false_iff] at hwhole
    exact (Apart.scalar (.str name)).join rfl
      ((apart_written r hwhole.1).join rfl (apart_membersWritten (next :: rest) hwhole.2))

end

/-- A text spells a value when it is cut into the tokens of the value. -/
theorem spells_iff {text : String} : Spells text r ↔
    Scan.tokens text.toList = r.written ∧ r.nesting ≤ depthLimit ∧ r.hasBreak = false := by
  constructor
  · rintro ⟨htokens, hnested, hwhole⟩
    exact ⟨(tokens_eq_iff (apart_written r hwhole)).mpr htokens, hnested, hwhole⟩
  · rintro ⟨htokens, hnested, hwhole⟩
    exact ⟨(tokens_eq_iff (apart_written r hwhole)).mp htokens, hnested, hwhole⟩

/-! ### A value is read from the tokens that write it -/

/-- No value begins with the end of an array. -/
theorem written_append_ne (r : Reading) (ts rest : List Token) :
    r.written ++ ts ≠ .closeArray :: rest := by
  cases r <;> simp [written]

theorem itemsWritten_append_ne {items : List Reading} (hitems : items ≠ [])
    (ts rest : List Token) : itemsWritten items ++ ts ≠ .closeArray :: rest := by
  match items with
  | [r] => exact written_append_ne r ts rest
  | r :: next :: more =>
    rw [itemsWritten, List.append_assoc]
    exact written_append_ne r _ rest

theorem membersWritten_append_ne {members : List (String × Reading)} (hmembers : members ≠ [])
    (ts rest : List Token) : membersWritten members ++ ts ≠ .closeObject :: rest := by
  match members with
  | [(name, r)] => simp [membersWritten]
  | (name, r) :: next :: more => simp [membersWritten]

/-- Reading gives a result and leaves some tokens unread. -/
def Leaves {α : Type} {ts : List Token} (read : α × Scan.After ts) (a : α) (rest : List Token) :
    Prop :=
  read.1 = a ∧ read.2.map (·.1) = some rest

theorem leaves_iff {α : Type} {read : α × Scan.After ts} {a : α} {rest : List Token} :
    Leaves read a rest ↔ ∃ h, read = (a, some ⟨rest, h⟩) := by
  obtain ⟨b, after⟩ := read
  constructor
  · rintro ⟨rfl, hafter⟩
    obtain ⟨⟨_, h⟩, rfl, rfl⟩ := Option.map_eq_some_iff.mp hafter
    exact ⟨h, rfl⟩
  · rintro ⟨h, ⟨⟩⟩
    exact ⟨rfl, rfl⟩

theorem Leaves.weaken {α β : Type} {us : List Token} {read : α × Scan.After ts} {a : α}
    {rest : List Token} (hread : Leaves read a rest) (f : α → β) (h : ts.length ≤ us.length) :
    Leaves (f read.1, read.2.weaken h) (f a) rest := by
  obtain ⟨_, rfl⟩ := leaves_iff.mp hread
  exact ⟨rfl, rfl⟩

theorem leaves_of_weaken {α β : Type} {us : List Token} {read : α × Scan.After ts} {f : α → β}
    {b : β} {rest : List Token} {h : ts.length ≤ us.length}
    (hread : Leaves (f read.1, read.2.weaken h) b rest) :
    ∃ a, Leaves read a rest ∧ f a = b := by
  obtain ⟨a, after⟩ := read
  cases after with
  | none => cases hread.2
  | some after => exact ⟨a, ⟨rfl, hread.2⟩, hread.1⟩

theorem value_array {tail rest : List Token} {items : List Reading}
    (htail : ∀ more, tail ≠ .closeArray :: more)
    (hitems : Leaves (Scan.elements depth tail) items rest) :
    Leaves (Scan.value (depth + 1) (.openArray :: tail)) (.arr items) rest := by
  rw [Scan.value]
  · exact hitems.weaken Reading.arr _
  · exact htail

theorem value_object {tail rest : List Token} {members : List (String × Reading)}
    (htail : ∀ more, tail ≠ .closeObject :: more)
    (hmembers : Leaves (Scan.members depth tail) members rest) :
    Leaves (Scan.value (depth + 1) (.openObject :: tail)) (.obj members) rest := by
  rw [Scan.value]
  · exact hmembers.weaken Reading.obj _
  · exact htail

mutual

theorem value_written (r : Reading) (depth : Nat) (hwhole : r.hasBreak = false)
    (hnested : r.nesting ≤ depth) (rest : List Token) :
    Leaves (Scan.value depth (r.written ++ rest)) r rest := by
  match r, depth with
  | .arr _, 0 => exact absurd hnested (Nat.not_succ_le_zero _)
  | .obj _, 0 => exact absurd hnested (Nat.not_succ_le_zero _)
  | .arr [], d + 1 =>
    simp only [written, itemsWritten, List.nil_append, List.cons_append, Scan.value]
    exact ⟨rfl, rfl⟩
  | .obj [], d + 1 =>
    simp only [written, membersWritten, List.nil_append, List.cons_append, Scan.value]
    exact ⟨rfl, rfl⟩
  | .arr (first :: more), d + 1 =>
    rw [written, List.cons_append, List.append_assoc]
    exact value_array (itemsWritten_append_ne (List.cons_ne_nil _ _) _)
      (elements_written (first :: more) d (List.cons_ne_nil _ _) hwhole
        (Nat.le_of_succ_le_succ hnested) rest)
  | .obj (first :: more), d + 1 =>
    rw [written, List.cons_append, List.append_assoc]
    exact value_object (membersWritten_append_ne (List.cons_ne_nil _ _) _)
      (members_written (first :: more) d (List.cons_ne_nil _ _) hwhole
        (Nat.le_of_succ_le_succ hnested) rest)
  | .null, _ | .bool _, _ | .int _, _ | .float _, _ | .str _, _ =>
    simp only [written, List.nil_append, List.cons_append, Scan.value]
    exact ⟨rfl, rfl⟩

theorem elements_written (items : List Reading) (depth : Nat) (hitems : items ≠ [])
    (hwhole : itemsHaveBreak items = false) (hnested : itemsNesting items ≤ depth)
    (rest : List Token) :
    Leaves (Scan.elements depth (itemsWritten items ++ .closeArray :: rest)) items rest := by
  match items with
  | [r] =>
    rw [itemsHaveBreak, itemsHaveBreak, Bool.or_false] at hwhole
    obtain ⟨h, hvalue⟩ := leaves_iff.mp
      (value_written r depth hwhole (Nat.max_le.mp hnested).1 (.closeArray :: rest))
    rw [itemsWritten_singleton, Scan.elements, hvalue]
    exact ⟨rfl, rfl⟩
  | r :: next :: more =>
    rw [itemsHaveBreak, Bool.or_eq_false_iff] at hwhole
    obtain ⟨hr, hmore⟩ := Nat.max_le.mp hnested
    have hlater := elements_written (next :: more) depth (List.cons_ne_nil _ _) hwhole.2 hmore rest
    obtain ⟨h, hvalue⟩ := leaves_iff.mp (value_written r depth hwhole.1 hr
      (.comma :: (itemsWritten (next :: more) ++ .closeArray :: rest)))
    rw [itemsWritten, List.append_assoc, List.cons_append, Scan.elements, hvalue]
    exact hlater.weaken (r :: ·) _

theorem members_written (members : List (String × Reading)) (depth : Nat) (hmembers : members ≠ [])
    (hwhole : membersHaveBreak members = false) (hnested : membersNesting members ≤ depth)
    (rest : List Token) :
    Leaves (Scan.members depth (membersWritten members ++ .closeObject :: rest)) members rest := by
  match members with
  | [(name, r)] =>
    rw [membersHaveBreak, membersHaveBreak, Bool.or_false] at hwhole
    obtain ⟨h, hvalue⟩ := leaves_iff.mp
      (value_written r depth hwhole (Nat.max_le.mp hnested).1 (.closeObject :: rest))
    rw [membersWritten_singleton, List.cons_append, List.cons_append, Scan.members, hvalue]
    exact ⟨rfl, rfl⟩
  | (name, r) :: next :: more =>
    rw [membersHaveBreak, Bool.or_eq_false_iff] at hwhole
    obtain ⟨hr, hmore⟩ := Nat.max_le.mp hnested
    have hlater := members_written (next :: more) depth (List.cons_ne_nil _ _) hwhole.2 hmore rest
    obtain ⟨h, hvalue⟩ := leaves_iff.mp (value_written r depth hwhole.1 hr
      (.comma :: (membersWritten (next :: more) ++ .closeObject :: rest)))
    rw [membersWritten, List.cons_append, List.cons_append, List.append_assoc, List.cons_append,
      Scan.members, hvalue]
    exact hlater.weaken ((name, r) :: ·) _

end

/-! ### What is read is what the tokens write -/

/-- A value that holds no others. -/
def isScalar : Reading → Bool
  | .arr _ | .obj _ | .broken => false
  | _ => true

/-- A value stands before some tokens. -/
structure Leads (depth : Nat) (r : Reading) (ts rest : List Token) : Prop where
  tokens : ts = r.written ++ rest
  nested : r.nesting ≤ depth
  whole : r.hasBreak = false

theorem written_of_isScalar (hscalar : r.isScalar) : r.written = [.scalar r] := by
  cases r with
  | arr | obj | broken => cases hscalar
  | _ => rfl

theorem nesting_of_isScalar (hscalar : r.isScalar) : r.nesting = 0 := by
  cases r with
  | arr | obj => cases hscalar
  | _ => rfl

theorem hasBreak_of_isScalar (hscalar : r.isScalar) : r.hasBreak = false := by
  cases r with
  | arr | obj | broken => cases hscalar
  | _ => rfl

theorem leads_scalar (hscalar : r.isScalar) (rest : List Token) :
    Leads depth r (.scalar r :: rest) rest where
  tokens := by
    rw [written_of_isScalar hscalar]
    rfl
  nested := nesting_of_isScalar hscalar ▸ Nat.zero_le depth
  whole := hasBreak_of_isScalar hscalar

theorem leads_arr_single {rest : List Token} (hr : Leads depth r ts (.closeArray :: rest)) :
    Leads (depth + 1) (.arr [r]) (.openArray :: ts) rest := by
  refine ⟨?_, ?_, ?_⟩
  · rw [hr.tokens, written, itemsWritten_singleton]
    simp
  · exact Nat.succ_le_succ (Nat.max_le.mpr ⟨hr.nested, Nat.zero_le _⟩)
  · exact (Bool.or_false _).trans hr.whole

theorem leads_arr_cons {items : List Reading} {more rest : List Token} (hitems : items ≠ [])
    (hr : Leads depth r ts (.comma :: more))
    (hmore : Leads (depth + 1) (.arr items) (.openArray :: more) rest) :
    Leads (depth + 1) (.arr (r :: items)) (.openArray :: ts) rest := by
  have htokens := List.tail_eq_of_cons_eq hmore.tokens
  refine ⟨?_, ?_, ?_⟩
  · rw [hr.tokens, htokens, written, itemsWritten_cons hitems]
    simp
  · exact Nat.succ_le_succ (Nat.max_le.mpr ⟨hr.nested, Nat.le_of_succ_le_succ hmore.nested⟩)
  · exact Bool.or_eq_false_iff.mpr ⟨hr.whole, hmore.whole⟩

theorem leads_obj_single {name : String} {rest : List Token}
    (hr : Leads depth r ts (.closeObject :: rest)) :
    Leads (depth + 1) (.obj [(name, r)]) (.openObject :: .scalar (.str name) :: .colon :: ts)
      rest := by
  refine ⟨?_, ?_, ?_⟩
  · rw [hr.tokens, written, membersWritten_singleton]
    simp
  · exact Nat.succ_le_succ (Nat.max_le.mpr ⟨hr.nested, Nat.zero_le _⟩)
  · exact (Bool.or_false _).trans hr.whole

theorem leads_obj_cons {name : String} {members : List (String × Reading)}
    {more rest : List Token} (hmembers : members ≠ []) (hr : Leads depth r ts (.comma :: more))
    (hmore : Leads (depth + 1) (.obj members) (.openObject :: more) rest) :
    Leads (depth + 1) (.obj ((name, r) :: members))
      (.openObject :: .scalar (.str name) :: .colon :: ts) rest := by
  have htokens := List.tail_eq_of_cons_eq hmore.tokens
  refine ⟨?_, ?_, ?_⟩
  · rw [hr.tokens, htokens, written, membersWritten_cons hmembers]
    simp
  · exact Nat.succ_le_succ (Nat.max_le.mpr ⟨hr.nested, Nat.le_of_succ_le_succ hmore.nested⟩)
  · exact Bool.or_eq_false_iff.mpr ⟨hr.whole, hmore.whole⟩

mutual

theorem leads_of_value {r : Reading} {ts rest : List Token} {depth : Nat}
    (hscalars : ∀ v, .scalar v ∈ ts → v.isScalar)
    (hread : Leaves (Scan.value depth ts) r rest) : Leads depth r ts rest := by
  rw [Scan.value.eq_def] at hread
  split at hread
  case h_1 =>
    obtain ⟨rfl, ⟨⟩⟩ := hread
    exact leads_scalar (hscalars _ List.mem_cons_self) _
  case h_2 =>
    obtain ⟨rfl, ⟨⟩⟩ := hread
    exact ⟨rfl, Nat.succ_le_succ (Nat.zero_le _), rfl⟩
  case h_3 =>
    obtain ⟨rfl, ⟨⟩⟩ := hread
    exact ⟨rfl, Nat.succ_le_succ (Nat.zero_le _), rfl⟩
  case h_4 =>
    obtain ⟨items, hitems, rfl⟩ := leaves_of_weaken (f := Reading.arr) hread
    exact (leads_of_elements (fun v hv => hscalars v (List.mem_cons_of_mem _ hv)) hitems).2
  case h_5 =>
    obtain ⟨members, hmembers, rfl⟩ := leaves_of_weaken (f := fun ms => Reading.obj ms) hread
    exact (leads_of_members (fun v hv => hscalars v (List.mem_cons_of_mem _ hv)) hmembers).2
  case h_6 => cases hread.2
termination_by (ts.length, 0)

theorem leads_of_elements {items : List Reading} {ts rest : List Token} {depth : Nat}
    (hscalars : ∀ v, .scalar v ∈ ts → v.isScalar)
    (hread : Leaves (Scan.elements depth ts) items rest) :
    items ≠ [] ∧ Leads (depth + 1) (.arr items) (.openArray :: ts) rest := by
  rw [Scan.elements.eq_def] at hread
  split at hread
  case h_1 => cases hread.2
  case h_2 v more h hvalue =>
    obtain ⟨rfl, ⟨⟩⟩ := hread
    have hv := leads_of_value hscalars (leaves_iff.mpr ⟨h, hvalue⟩)
    exact ⟨List.cons_ne_nil _ _, leads_arr_single hv⟩
  case h_3 v more h hvalue =>
    have hv := leads_of_value hscalars (leaves_iff.mpr ⟨h, hvalue⟩)
    obtain ⟨later, hlater, rfl⟩ := leaves_of_weaken (f := (v :: ·)) hread
    have hshorter : more.length < ts.length := Nat.lt_of_succ_lt h
    have hmore := leads_of_elements (fun w hw => hscalars w (by simp [hv.tokens, hw])) hlater
    exact ⟨List.cons_ne_nil _ _, leads_arr_cons hmore.1 hv hmore.2⟩
  case h_4 => cases hread.2
termination_by (ts.length, 1)

theorem leads_of_members {members : List (String × Reading)} {ts rest : List Token} {depth : Nat}
    (hscalars : ∀ v, .scalar v ∈ ts → v.isScalar)
    (hread : Leaves (Scan.members depth ts) members rest) :
    members ≠ [] ∧ Leads (depth + 1) (.obj members) (.openObject :: ts) rest := by
  rw [Scan.members.eq_def] at hread
  split at hread
  case h_1 name tail =>
    split at hread
    case h_1 => cases hread.2
    case h_2 v more h hvalue =>
      obtain ⟨rfl, ⟨⟩⟩ := hread
      have hv := leads_of_value (fun w hw => hscalars w (by simp [hw]))
        (leaves_iff.mpr ⟨h, hvalue⟩)
      exact ⟨List.cons_ne_nil _ _, leads_obj_single hv⟩
    case h_3 v more h hvalue =>
      have hv := leads_of_value (fun w hw => hscalars w (by simp [hw]))
        (leaves_iff.mpr ⟨h, hvalue⟩)
      obtain ⟨later, hlater, rfl⟩ := leaves_of_weaken (f := ((name, v) :: ·)) hread
      have hshorter : more.length < (Token.scalar (.str name) :: .colon :: tail).length :=
        Nat.lt_add_right 2 (Nat.lt_of_succ_lt h)
      have hmore := leads_of_members (fun w hw => hscalars w (by simp [hv.tokens, hw])) hlater
      exact ⟨List.cons_ne_nil _ _, leads_obj_cons hmore.1 hv hmore.2⟩
    case h_4 => cases hread.2
  case h_2 => cases hread.2
  case h_3 => cases hread.2
termination_by (ts.length, 1)

end

/-! ### Whole texts -/

theorem isScalar_numberValue (negative : Bool) (whole : List Char) (fraction : Option (List Char))
    (exponent : Option Int) : (Scan.numberValue negative whole fraction exponent).isScalar := by
  rw [Scan.numberValue]
  dsimp only
  split
  · split_ifs <;> rfl
  · split <;> rfl

theorem WritesScalar.isScalar {text : List Char} (hr : WritesScalar text r) : r.isScalar := by
  cases hr with
  | number hr =>
    cases hr
    exact isScalar_numberValue _ _ _ _
  | _ => rfl

theorem isScalar_of_mem_tokens {text : List Char} (hmem : .scalar r ∈ Scan.tokens text) :
    r.isScalar := by
  fun_induction Scan.tokens text with
  | case1 => cases hmem
  | case2 _ _ _ ih => exact ih hmem
  | case9 => cases List.mem_singleton.mp hmem
  | case10 _ _ _ _ _ _ _ _ _ value width hscalar ih =>
    rcases List.mem_cons.mp hmem with hfirst | hmore
    · cases hfirst
      obtain ⟨_, _, -, -, hr⟩ := writesScalar_of_scalar? hscalar
      exact hr.isScalar
    · exact ih hmore
  | _ => simp_all

theorem document_eq_iff_leaves {text : String} : document text = ⟨r, true⟩
    ↔ Leaves (Scan.value depthLimit (Scan.tokens text.toList)) r [] := by
  rw [document]
  split
  case h_1 v h hvalue =>
    rw [hvalue]
    simp [Leaves]
  case h_2 hpartial hvalue =>
    refine iff_of_false (by simp) fun hread => ?_
    obtain ⟨h, hwhole⟩ := leaves_iff.mp hread
    exact hpartial h (congrArg Prod.snd (hvalue.symm.trans hwhole))

/-- A document is read whole exactly when its text spells a value, and then as that value. -/
theorem document_eq_iff {text : String} : document text = ⟨r, true⟩ ↔ Spells text r := by
  rw [document_eq_iff_leaves]
  constructor
  case mp =>
    intro hread
    have hleads := leads_of_value (fun _ => isScalar_of_mem_tokens) hread
    exact spells_iff.mpr
      ⟨hleads.tokens.trans (List.append_nil _), hleads.nested, hleads.whole⟩
  case mpr =>
    intro htext
    rw [(spells_iff.mp htext).1, ← List.append_nil r.written]
    exact value_written r depthLimit htext.whole htext.nested []

theorem Spells.unique {text : String} {r r' : Reading} (hr : Spells text r)
    (hr' : Spells text r') : r = r' :=
  congrArg Document.value ((document_eq_iff.mpr hr).symm.trans (document_eq_iff.mpr hr'))

end HybridSearch.Reading
