import HybridSearch.Proofs.Records
import HybridSearch.Proofs.Single
import HybridSearch.Proofs.Strategies
import HybridSearch.Proofs.Unasked

/-!
# The vectors that are sent

A clause that looks for the nearest vectors has the one that the embedder replied with, component
by component in single precision. A component too large for that is infinite there and null in what
is sent, and the search goes on with it, for only an empty vector is done without.
-/

namespace HybridSearch

/-! ### The reply of the embedder -/

namespace Http.Embedder

/-- The absolute value of a number that a reply has. -/
def size : Reading → ℚ
  | .int n => n.natAbs
  | .float x => (Magnitude.ofFloat x).value
  | _ => 0

theorem isFinite_iff_of_component {r : Reading} {x : Float} (hread : component r = .ok x) :
    x.isFinite ↔ size r < 2 ^ 128 - 2 ^ 103 := by
  cases r with
  | int n =>
    cases hread
    exact isFinite_singleOfInt_iff n
  | float y =>
    obtain ⟨z, hdouble, rfl⟩ := Decoded.map_eq_ok.mp hread
    rw [Reading.double] at hdouble
    split_ifs at hdouble with hfinite
    · cases hdouble
      exact isFinite_toSingle_iff hfinite
    · cases hdouble
  | _ => cases hread

/-- The components of an embedding as a reply has them. -/
def components? (body : String) : Option (List Reading) :=
  ((Reading.document body).value.member? ["embedding"] "embedding").bind (·.items?)

theorem exists_components {body : String} {vector : List Float}
    (hread : Reading.ofText decode body = .ok vector) :
    ∃ components, components? body = some components
      ∧ List.Forall₂ (fun r x => component r = .ok x) components vector := by
  obtain ⟨r, hspells, hdecode⟩ := Reading.ofText_eq_ok.mp hread
  obtain ⟨-, hbuild⟩ := (Reading.record_eq_ok hspells.whole).mp hdecode
  obtain ⟨value, hmember, hlist⟩ := (Reading.required_eq_ok (by decide)).mp hbuild
  obtain ⟨components, rfl, hcomponents⟩ := Reading.list_eq_ok.mp hlist
  refine ⟨components, ?_, hcomponents⟩
  rw [components?, Reading.document_eq_iff.mpr hspells]
  exact congrArg (·.bind Reading.items?) hmember

end Http.Embedder

/-! ### The vector of a body -/

theorem Json.number_isFinite_iff (x : Float) :
    (∃ y : Float, Json.number x = .float y ∧ y.isFinite) ↔ x.isFinite := by
  rw [number]
  split_ifs with hfinite
  · refine iff_of_true ⟨x, rfl, hfinite⟩ hfinite
  · refine iff_of_false ?_ hfinite
    rintro ⟨y, hnull, -⟩
    cases hnull

/-- The query for nearest vectors that a body scores by. -/
def knnOf? (body : Json) : Option Json :=
  match ((body.get? "query").bind (·.get? "bool")).bind (·.get? "must") with
  | some (.arr [query]) => query.get? "knn"
  | _ => none

/-- What such a query has as the vector for its field. -/
def vectorOf? : Json → Option Json
  | .obj [(_, target)] => target.get? "vector"
  | _ => none

theorem knnOf?_searchBody (query : ScoringQuery) (filters : List FilterQuery) (size : Nat) :
    knnOf? (searchBody query filters ⟨none, size⟩) = query.json.get? "knn" := by
  have hmust := Json.get?_object_last "must" (.arr [query.json]) []
  rw [knnOf?, bool_searchBody, Option.bind_some, Json.get?_object_concat, if_neg (by decide),
    ← List.nil_append [_], hmust]

namespace ScoringQuery

theorem exists_knn_nearest (field : String) (vector : List Float) (count : Nat) :
    ∃ knn, (nearest field vector count).json.get? "knn" = some knn
      ∧ vectorOf? knn = some (.arr (vector.map .number)) := by
  refine ⟨_, Json.get?_object_last "knn" _ [], ?_⟩
  change (Json.object ([("vector", .arr (vector.map .number))] ++ [("k", .nat count)])).get?
    "vector" = _
  rw [Json.get?_object_concat, if_neg (by decide)]
  exact Json.get?_object_last "vector" _ []

/-- Only a query for nearest vectors has a vector, and it is the one that is looked for. -/
theorem nearest_of_knn {query : ScoringQuery} {knn : Json}
    (hknn : query.json.get? "knn" = some knn) : ∃ field vector count,
      query = .nearest field vector count ∧ vectorOf? knn = some (.arr (vector.map .number)) := by
  cases query with
  | everything => cases hknn
  | text query fields => cases hknn
  | codes wanted => cases hknn
  | nearest field vector count =>
    obtain ⟨found, hfound, hvector⟩ := exists_knn_nearest field vector count
    cases hfound.symm.trans hknn
    exact ⟨field, vector, count, rfl, hvector⟩

end ScoringQuery

namespace ClauseInputs

variable {i : ClauseInputs} {w : Weights} {r : Retrieval} {field : String} {vector : List Float}
  {count : Nat}

theorem nearest_of_mem_semantic (hr : r ∈ i.semantic w) : ∃ field vector,
    i.embedding = some vector ∧ r.query = .nearest field vector i.size := by
  rw [semantic] at hr
  cases hembedding : i.embedding with
  | none =>
    rw [hembedding] at hr
    cases hr
  | some vector =>
    simp only [hembedding] at hr
    split_ifs at hr
    · cases hr
    · simp only [List.mem_cons, List.not_mem_nil, or_false] at hr
      rcases hr with rfl | rfl | rfl <;> exact ⟨_, vector, rfl, rfl⟩

theorem text_of_mem_variant {strategy : Strategy} {form : Option String} {weight : Float}
    (hr : r ∈ variant strategy form weight) : ∃ text fields, r.query = .text text fields := by
  unfold variant at hr
  split at hr
  · split_ifs at hr
    · cases hr
    · rw [List.mem_singleton.mp hr]
      exact ⟨_, _, rfl⟩
  · cases hr

theorem text_of_mem_keyword (hr : r ∈ i.keyword w) :
    ∃ text fields, r.query = .text text fields := by
  simp only [keyword] at hr
  split_ifs at hr
  · rw [List.mem_singleton.mp hr]
    exact ⟨_, _, rfl⟩
  · rcases List.mem_cons.mp hr with rfl | hvariant
    · exact ⟨_, _, rfl⟩
    · rcases List.mem_append.mp hvariant with hnouns | hstemmed
      · exact text_of_mem_variant hnouns
      · exact text_of_mem_variant hstemmed

theorem codes_of_mem_intent (hr : r ∈ i.intent w) : ∃ wanted, r.query = .codes wanted := by
  unfold intent at hr
  split at hr
  · split_ifs at hr
    · cases hr
    · rw [List.mem_singleton.mp hr]
      exact ⟨_, rfl⟩
  · cases hr

/-- The vector that a clause looks for is the one that the query was embedded as. -/
theorem embedding_of_nearest (hr : r ∈ i.candidates w)
    (hnearest : r.query = .nearest field vector count) : i.embedding = some vector := by
  rw [candidates, List.mem_append, List.mem_append] at hr
  rcases hr with (hsemantic | hkeyword) | hintent
  · obtain ⟨_, _, hembedding, hquery⟩ := nearest_of_mem_semantic hsemantic
    cases hquery.symm.trans hnearest
    exact hembedding
  · obtain ⟨_, _, hquery⟩ := text_of_mem_keyword hkeyword
    cases hquery.symm.trans hnearest
  · obtain ⟨_, hquery⟩ := codes_of_mem_intent hintent
    cases hquery.symm.trans hnearest

end ClauseInputs

/-- A clause for nearest vectors has the vector of the query. -/
theorem Plan.embedding_of_knn {plan : Plan} {size : Nat} {query : Option SearchQuery}
    {signals : Signals} {clause : Clause} {knn : Json}
    (hclause : clause ∈ plan.clauses size query signals) (hknn : knnOf? clause.body = some knn) :
    ∃ vector, signals.embedding = some vector
      ∧ vectorOf? knn = some (.arr (vector.map .number)) := by
  cases query with
  | none =>
    rw [List.mem_singleton.mp hclause] at hknn
    cases (knnOf?_searchBody _ _ _).symm.trans hknn
  | some q =>
    obtain ⟨r, hr, rfl⟩ := List.mem_map.mp hclause
    obtain ⟨field, vector, count, hnearest, hvector⟩ :=
      ScoringQuery.nearest_of_knn ((knnOf?_searchBody _ _ _).symm.trans hknn)
    exact ⟨vector, ClauseInputs.embedding_of_nearest (List.mem_of_mem_filter hr) hnearest, hvector⟩

/-- A query that is no code is looked for by its vector, unless the weights turn that off. -/
theorem Plan.exists_knn_of_embedding {plan : Plan} {size : Nat} {q : SearchQuery}
    {signals : Signals} {vector : List Float} (hcode : q.isCode = false)
    (hembedding : signals.embedding = some vector)
    (hweight : ¬ plan.weights.semantic.service * plan.weights.strategies.semanticSearch ≤ 0) :
    ∃ clause ∈ plan.clauses size (some q) signals, ∃ knn, knnOf? clause.body = some knn
      ∧ vectorOf? knn = some (.arr (vector.map .number)) := by
  let inputs : ClauseInputs := ⟨q.keywords, q.isCode, signals.embedding, signals.codes, size⟩
  let found : Retrieval := ⟨.semanticService,
    plan.weights.semantic.service * plan.weights.strategies.semanticSearch,
    .nearest "service.embedding" vector size⟩
  have hsemantic : found ∈ inputs.semantic plan.weights := by
    simp only [ClauseInputs.semantic, inputs, hembedding, hcode]
    exact List.mem_cons_self
  have hfound : found ∈ inputs.retrievals plan.weights :=
    List.mem_filter.mpr ⟨List.mem_append_left _ (List.mem_append_left _ hsemantic),
      by simpa using hweight⟩
  obtain ⟨knn, hknn, hvector⟩ := ScoringQuery.exists_knn_nearest "service.embedding" vector size
  exact ⟨_, List.mem_map_of_mem hfound, knn, (knnOf?_searchBody _ _ _).trans hknn, hvector⟩

/-! ### The vector of a search -/

namespace Embedding

variable {limit : Nat} {embedder : Option Embedder} {text : Option String} {vector : List Float}

theorem ofAttempt_eq_some {attempt : Attempt (List Float)}
    (hvector : ofAttempt limit attempt = some vector) :
    attempt.result = .ok vector ∧ vector ≠ [] := by
  obtain ⟨hwithin, hsome⟩ := Option.filter_eq_some_iff.mp hvector
  exact ⟨(Attempt.within_eq_some_iff.mp hwithin).2, by simpa using hsome⟩

theorem ask_eq_some (hvector : (ask limit embedder text).value = some vector) :
    ∃ f t, embedder = some f ∧ (ask limit embedder text).calls = [.embed t]
      ∧ (f t).result = .ok vector ∧ vector ≠ [] := by
  cases embedder with
  | none => cases hvector
  | some f =>
    cases text with
    | none => cases hvector
    | some t => exact ⟨f, t, rfl, rfl, ofAttempt_eq_some hvector⟩

end Embedding

namespace Engine

variable {e : Engine} {w : Weights} {r : SearchRequest} {index : String} {bodies : List Json}

theorem search_not_mem_signals (query : Option SearchQuery) :
    .search index bodies ∉ (e.signals r query).calls := by
  have hembedding (text : Option String) :
      .search index bodies ∉ (Embedding.ask e.embedPatience e.embedder text).calls := by
    cases e.embedder <;> cases text <;> simp [Embedding.ask]
  have hintent (text : Option String) :
      .search index bodies ∉ (Intent.ask e.sources.patience e.sources.classifier text).calls := by
    cases e.sources.classifier <;> cases text <;> simp [Intent.ask]
  simp [signals, hembedding, hintent]

/-- What a search sends to the backend are the bodies of its clauses. -/
theorem bodies_of_mem_calls (hsent : .search index bodies ∈ (e.search w r).calls) :
    ∃ plan, Plan.ofRequest e.indexBase w r = .ok plan
      ∧ bodies = (e.clauses r plan).map (·.body) := by
  cases hplan : Plan.ofRequest e.indexBase w r with
  | error cause =>
    rw [e.search_of_invalid hplan] at hsent
    cases hsent
  | ok plan =>
    rw [e.search_calls_of_plan hplan] at hsent
    rcases List.mem_append.mp hsent with hsignal | hlater
    · exact absurd hsignal (search_not_mem_signals _)
    · rcases List.mem_append.mp hlater with hbatch | hrerank
      · rw [Batch.calls_execute] at hbatch
        split_ifs at hbatch
        · cases hbatch
        · cases List.mem_singleton.mp hbatch
          exact ⟨plan, rfl, rfl⟩
      · split at hrerank
        · cases hrerank
        · cases Page.helper?_of_mem_calls hrerank

theorem mem_calls_of_clauses {plan : Plan} (hplan : Plan.ofRequest e.indexBase w r = .ok plan)
    (hsome : e.clauses r plan ≠ []) :
    .search plan.index ((e.clauses r plan).map (·.body)) ∈ (e.search w r).calls := by
  rw [e.search_calls_of_plan hplan, Batch.calls_execute, if_neg (by simpa using hsome)]
  simp

theorem embedding_signals (query : Option SearchQuery) :
    (e.signals r query).value.embedding = (Embedding.ask e.embedPatience e.embedder
      ((query.filter (·.wantsEmbedding r)).map (·.text))).value := rfl

variable {network : Http.Network} {url : String} {body knn : Json}

/-- Every query for nearest vectors that is sent has the vector of a reply of the embedder, with as
many components and at least one. They are finite numbers exactly when no component of the reply
is too large for single precision. -/
theorem knn_vector_finite_iff (hembedder : e.embedder = some (Http.Embedder.client network url))
    (hsent : .search index bodies ∈ (e.search w r).calls) (hbody : body ∈ bodies)
    (hknn : knnOf? body = some knn) :
    ∃ text reply components items, .embed text ∈ (e.search w r).calls
      ∧ network (Http.Embedder.request url text) = some reply ∧ reply.isSuccess
      ∧ Http.Embedder.components? reply.body = some components
      ∧ vectorOf? knn = some (.arr items) ∧ items ≠ [] ∧ items.length = components.length
      ∧ ((∀ item ∈ items, ∃ x : Float, item = .float x ∧ x.isFinite) ↔
          ∀ c ∈ components, Http.Embedder.size c < 2 ^ 128 - 2 ^ 103) := by
  obtain ⟨plan, hplan, rfl⟩ := bodies_of_mem_calls hsent
  obtain ⟨clause, hclause, rfl⟩ := List.mem_map.mp hbody
  obtain ⟨vector, hembedding, hvector⟩ := Plan.embedding_of_knn hclause hknn
  obtain ⟨f, text, hf, hcalls, hresult, hsome⟩ := Embedding.ask_eq_some hembedding
  obtain rfl := Option.some.inj (hf.symm.trans hembedder)
  obtain ⟨reply, hreply, hsuccess, hread⟩ := Http.ask_eq_ok_iff.mp hresult
  obtain ⟨components, hcomponents, hsingles⟩ := Http.Embedder.exists_components hread
  refine ⟨text, reply, components, vector.map .number, ?_, hreply, hsuccess, hcomponents, hvector,
    by simpa using hsome, ?_, ?_⟩
  · have hasked : .embed text ∈ (e.signals r (e.query r)).calls :=
      List.mem_append_left _ (hcalls ▸ List.mem_singleton_self _)
    rw [e.search_calls_of_plan hplan]
    exact List.mem_append_left _ hasked
  · rw [List.length_map, hsingles.length_eq]
  · rw [forall_mem_iff_of_forall₂ hsingles fun _ _ hread =>
      (Http.Embedder.isFinite_iff_of_component hread).symm, List.forall_mem_map]
    exact forall₂_congr fun x _ => Json.number_isFinite_iff x

/-- An engine whose embedder has one reply. -/
def embedding (reply : Http.Reply) : Engine :=
  { Engine.ofHits [] with
    embedder := some (Http.Embedder.client (fun _ => some reply) "http://embedder") }

section

variable {reply : Http.Reply} {vector : List Float}

theorem exists_signal_of_reply (hsuccess : reply.isSuccess)
    (hread : Reading.ofText Http.Embedder.decode reply.body = .ok vector) (hsome : vector ≠ []) :
    ∃ q, (embedding reply).query shelterRequest = some q ∧ q.isCode = false
      ∧ ((embedding reply).signals shelterRequest (some q)).value.embedding = some vector := by
  let q : SearchQuery :=
    .ofText (embedding reply).sources "emergency shelter for families tonight"
  have hcode : q.isCode = false := by
    rw [SearchQuery.ofText_isCode, Query.analyze_isCode]
    decide
  refine ⟨q, rfl, hcode, ?_⟩
  have hwants : q.wantsEmbedding shelterRequest := by
    simp [SearchQuery.wantsEmbedding, hcode, shelterRequest, SearchRequest.empty]
  have hanswer : Http.Embedder.client (fun _ => some reply) "http://embedder" q.text
      = .atOnce (.ok vector) :=
    congrArg Attempt.atOnce (Http.ask_eq_ok_iff.mpr ⟨reply, rfl, hsuccess, hread⟩)
  rw [embedding_signals, Option.filter_some_pos hwants]
  change Embedding.ofAttempt _ (Http.Embedder.client (fun _ => some reply) "http://embedder" q.text)
    = _
  rw [hanswer]
  exact Option.filter_some_pos (by simpa using hsome)

theorem exists_knn_of_reply (hsuccess : reply.isSuccess)
    (hread : Reading.ofText Http.Embedder.decode reply.body = .ok vector) (hsome : vector ≠ []) :
    ∃ index bodies body knn, .search index bodies ∈ ((embedding reply).search .default
        shelterRequest).calls
      ∧ body ∈ bodies ∧ knnOf? body = some knn
      ∧ vectorOf? knn = some (.arr (vector.map .number)) := by
  have hplan : Plan.ofRequest (embedding reply).indexBase .default shelterRequest = .ok queryPlan :=
    rfl
  obtain ⟨q, hquery, hcode, hembedding⟩ := exists_signal_of_reply hsuccess hread hsome
  have hweight : ¬ queryPlan.weights.semantic.service
      * queryPlan.weights.strategies.semanticSearch ≤ 0 := by
    decide +kernel
  obtain ⟨clause, hclause, knn, hknn, hvector⟩ :=
    Plan.exists_knn_of_embedding hcode hembedding hweight
  rw [← hquery] at hclause
  exact ⟨queryPlan.index, _, clause.body, knn,
    mem_calls_of_clauses hplan (List.ne_nil_of_mem hclause), List.mem_map_of_mem hclause, hknn,
    hvector⟩

end

end Engine

namespace Http.Embedder

section

variable {text : String} {r : Reading} {x : Float}

/-- How a text with one component is read. -/
theorem document_of_component (hscalar : r.isScalar)
    (htokens : Reading.Scan.tokens text.toList = [.openObject, .scalar (.str "embedding"), .colon,
      .openArray, .scalar r, .closeArray, .closeObject]) :
    Reading.document text = ⟨.obj [("embedding", .arr [r])], true⟩ := by
  have hwritten := Reading.written_of_isScalar hscalar
  have hnesting := Reading.nesting_of_isScalar hscalar
  have hwhole := Reading.hasBreak_of_isScalar hscalar
  refine Reading.document_eq_iff.mpr (Reading.spells_iff.mpr ⟨?_, ?_, ?_⟩)
  · simp [htokens, Reading.written, Reading.membersWritten, Reading.itemsWritten, hwritten]
  · simp [Reading.nesting, Reading.membersNesting, Reading.itemsNesting, hnesting,
      Reading.depthLimit]
  · simp [Reading.hasBreak, Reading.membersHaveBreak, Reading.itemsHaveBreak, hwhole]

theorem ofText_of_component
    (hdocument : Reading.document text = ⟨.obj [("embedding", .arr [r])], true⟩)
    (hread : component r = .ok x) : Reading.ofText decode text = .ok [x] := by
  have hlist : Reading.list component (.arr [r]) = .ok [x] :=
    Decoded.seq_eq_ok.mpr ⟨_, _, Decoded.map_eq_ok.mpr ⟨x, hread, rfl⟩, rfl, rfl⟩
  have hdecode : decode (.obj [("embedding", .arr [r])]) = .ok [x] := by
    change Reading.closeRecord ((fun _ _ a => a) <$> Decoded.ok () <*> Decoded.ok () <*>
      Reading.list component (.arr [r])) = _
    rw [hlist]
    rfl
  rw [Reading.ofText, hdocument, hdecode]
  rfl

end

def fitting : Reply := ⟨200, "\x7b\"embedding\":[1]\x7d"⟩

theorem document_fitting : Reading.document fitting.body
    = ⟨.obj [("embedding", .arr [.int 1])], true⟩ :=
  document_of_component rfl (by with_unfolding_all rfl)

/-- A number that a double holds and single precision does not. -/
def beyondSingle : Reading := Reading.Scan.numberValue false ['1'] none (some 39)

def overflowing : Reply := ⟨200, "\x7b\"embedding\":[1e39]\x7d"⟩

theorem document_overflowing : Reading.document overflowing.body
    = ⟨.obj [("embedding", .arr [beyondSingle])], true⟩ :=
  document_of_component (Reading.isScalar_numberValue _ _ _ _) (by with_unfolding_all rfl)

theorem component_beyondSingle : ∃ x : Float, component beyondSingle = .ok x ∧ ¬ x.isFinite := by
  have hover : (component beyondSingle).toOption.any (fun x => !x.isFinite) = true := by
    decide +kernel
  cases hread : component beyondSingle with
  | error cause =>
    rw [hread] at hover
    cases hover
  | ok x =>
    rw [hread] at hover
    exact ⟨x, rfl, by simpa [Decoded.toOption] using hover⟩

theorem ofText_overflowing :
    ∃ x : Float, Reading.ofText decode overflowing.body = .ok [x] ∧ ¬ x.isFinite := by
  obtain ⟨x, hread, hinfinite⟩ := component_beyondSingle
  exact ⟨x, ofText_of_component document_overflowing hread, hinfinite⟩

end Http.Embedder

namespace Engine

open Http.Embedder

theorem knn_vector_finite_of_fitting :
    ∃ index bodies body knn items, .search index bodies ∈ ((embedding fitting).search .default
        shelterRequest).calls
      ∧ body ∈ bodies ∧ knnOf? body = some knn ∧ vectorOf? knn = some (.arr items) ∧ items ≠ []
      ∧ ∀ item ∈ items, ∃ x : Float, item = .float x ∧ x.isFinite := by
  have hread : Reading.ofText decode fitting.body = .ok [singleOfInt 1] :=
    ofText_of_component document_fitting rfl
  obtain ⟨index, bodies, body, knn, hsent, hbody, hknn, -⟩ :=
    exists_knn_of_reply rfl hread (List.cons_ne_nil _ _)
  obtain ⟨text, reply, components, items, -, hreply, -, hcomponents, hvector, hsome, -, hiff⟩ :=
    knn_vector_finite_iff rfl hsent hbody hknn
  obtain rfl := Option.some.inj hreply
  rw [components?, document_fitting] at hcomponents
  obtain rfl : [.int 1] = components := Option.some.inj hcomponents
  refine ⟨index, bodies, body, knn, items, hsent, hbody, hknn, hvector, hsome, hiff.mpr ?_⟩
  intro c hc
  rw [List.mem_singleton.mp hc]
  norm_num [size]

/-- The embedder's reply is accepted, and what is sent is not a number. -/
theorem exists_knn_vector_null :
    (∃ vector, Reading.ofText decode overflowing.body = .ok vector) ∧
    ∃ index bodies body knn items, .search index bodies ∈ ((embedding overflowing).search .default
        shelterRequest).calls
      ∧ body ∈ bodies ∧ knnOf? body = some knn ∧ vectorOf? knn = some (.arr items)
      ∧ .null ∈ items := by
  obtain ⟨x, hread, hinfinite⟩ := ofText_overflowing
  obtain ⟨index, bodies, body, knn, hsent, hbody, hknn, hvector⟩ :=
    exists_knn_of_reply rfl hread (List.cons_ne_nil _ _)
  have hnull : Json.number x = .null := if_neg hinfinite
  exact ⟨⟨_, hread⟩, index, bodies, body, knn, _, hsent, hbody, hknn, hvector, by simp [hnull]⟩

end Engine

end HybridSearch
