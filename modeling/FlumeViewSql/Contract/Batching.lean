import FlumeViewSql.Contract.Edges
import FlumeViewSql.Contract.Indexing
import FlumeViewSql.Contract.Refinement
import FlumeViewSql.Execution.Grouping
import FlumeViewSql.Relational.Numbering
import FlumeViewSql.Source.Process

/-! How entries are grouped into calls, and in which order they come.

The source appends entries one by one, in batches of 1000 from `process`, and in batches of
another size where it fills a test database. Grouping makes no difference as long as all calls
return; order makes none to what is stored, but the ids follow the order.
-/

set_option autoImplicit false

namespace FlumeViewSql

open Execution Relational

variable {SecretKey : Type} (crates : Crates SecretKey) (secretKeys : List SecretKey) (pubKey : String)

/-! ### Grouping -/

theorem Call.returnsAs (call : Call) : Action.ReturnsAs (call.perform crates secretKeys)
    (Action.forEach call.items fun item => FlumeViewSql.append crates secretKeys item.1 item.2) := by
  cases call with
  | append seq item =>
    intro connection u after
    rw [Call.items, Action.forEach_cons, Action.bind_run_ok_iff]
    constructor
    · intro returned
      exact ⟨u, after, returned, rfl⟩
    · rintro ⟨v, after', returned, ended⟩
      cases ended
      exact returned
  | appendBatch items => exact Action.ReturnsAs.transaction _ _

theorem batching_irrelevant {calls others : List Call} (same : calls.flatMap Call.items = others.flatMap Call.items) :
    Action.ReturnsAs (Action.forEach calls (Call.perform crates secretKeys))
      (Action.forEach others (Call.perform crates secretKeys)) := by
  have calls' := Action.ReturnsAs.forEach_flatMap (Call.returnsAs crates secretKeys) calls
  have others' := Action.ReturnsAs.forEach_flatMap (Call.returnsAs crates secretKeys) others
  rw [same] at calls'
  exact calls'.trans others'.symm

theorem batching_irrelevant_posts :
    Action.ReturnsAs
      (Action.forEach [.append 0 (logItem "%a"), .append 115 (logItem "%d")] (Call.perform logCrates [()]))
      (Action.forEach [.appendBatch [(0, logItem "%a"), (115, logItem "%d")]] (Call.perform logCrates [()])) :=
  batching_irrelevant logCrates [()] rfl

example : ((Action.forEach [.append 0 (logItem "%a"), .append 115 (logItem "%d")]
    (Call.perform logCrates [()])).run (created "@me")).outcome = .ok () := by
  decide +kernel

theorem process_appends (iter : OffsetLogIter) (log : Log) (numItems : Int64) (connection after : Connection Db) :
    (process crates secretKeys iter log numItems).run connection = ⟨.ok (), after⟩ ↔
      (Action.forEach (processItems iter log numItems (getLatest connection.db)) fun item =>
        append crates secretKeys item.1 item.2).run connection = ⟨.ok (), after⟩ := by
  rw [process_run]
  generalize processItems iter log numItems (getLatest connection.db) = items
  have batches := Action.ReturnsAs.forEach_flatMap
    (fun batch => Call.returnsAs crates secretKeys (.appendBatch batch)) (chunks 1000 items)
  have whole : (chunks 1000 items).flatMap (fun batch => (Call.appendBatch batch).items) = items := by
    have flat := flatten_chunks (by decide : 0 < 1000) items
    rwa [← List.flatMap_id] at flat
  rw [whole] at batches
  exact batches connection () after

theorem calls_follow (calls : List Call) :
    Action.Ends (Action.forEach calls (Call.perform crates secretKeys)) (created pubKey)
      (fun _ after => ∃ history, (calls.flatMap Call.items).map (Stored.read crates secretKeys) = history.map some ∧
        Storable history ∧ Represents after.db (history.foldl (Facts.index crates) (.created pubKey)))
      (fun _ => ¬ ∃ history, (calls.flatMap Call.items).map (Stored.read crates secretKeys) = history.map some ∧
        Storable history) := by
  have started : Tells (created pubKey) (.created pubKey) := represents_created pubKey
  apply (Action.ReturnsAs.forEach_flatMap (Call.returnsAs crates secretKeys) calls).ends
  apply ((appendItem_simulates crates secretKeys).forEach (calls.flatMap Call.items) started).mono
  · rintro _ after ⟨facts, accepts, represents⟩
    obtain ⟨history, reads, storable, rfl⟩ := acceptAll_created_iff.mp accepts
    exact ⟨history, reads, storable, represents⟩
  · rintro _ refuses ⟨history, reads, storable⟩
    rw [acceptAll_created_iff.mpr ⟨history, reads, storable, rfl⟩] at refuses
    cases refuses

theorem calls_return_iff (calls : List Call) :
    ((Action.forEach calls (Call.perform crates secretKeys)).run (created pubKey)).outcome = .ok () ↔
      ∃ history, (calls.flatMap Call.items).map (Stored.read crates secretKeys) = history.map some ∧
        Storable history := by
  apply Action.Ends.returns_iff
  apply (calls_follow crates secretKeys pubKey calls).mono
  · exact fun _ _ ⟨history, reads, storable, _⟩ => ⟨history, reads, storable⟩
  · exact fun _ => id

/-! ### Order -/

/-- What is shown is the same up to its order; mentions and ids are left out. -/
structure ShownAlike (first second : Shown) : Prop where
  messages : first.messages.Perm second.messages
  links : first.links.Perm second.links
  blobLinks : first.blobLinks.Perm second.blobLinks
  branches : first.branches.Perm second.branches
  contacts : first.contacts.Perm second.contacts
  abouts : first.abouts.Perm second.abouts
  keys : (first.keys.map Prod.snd).Perm (second.keys.map Prod.snd)
  authors : (first.authors.map Prod.snd).Perm (second.authors.map Prod.snd)
  blobs : (first.blobs.map Prod.snd).Perm (second.blobs.map Prod.snd)
  latest : first.latest = second.latest
  seqByKey : first.seqByKey = second.seqByKey
  seqsByType : ∀ contentType, (first.seqsByType contentType).Perm (second.seqsByType contentType)
  seqsByAuthor : ∀ author, (first.seqsByAuthor author).Perm (second.seqsByAuthor author)

section
variable {history other : List Stored} (perm : history.Perm other) (storable : Storable history)
include perm storable

theorem messagesOf_perm (key : String) :
    (history.foldl (Facts.index crates) (.created pubKey)).messagesOf key =
      (other.foldl (Facts.index crates) (.created pubKey)).messagesOf key := by
  rw [Facts.foldl_index, Facts.foldl_index]
  apply filter_eq_of_perm (perm.map (Stored.messageFact crates))
  rw [List.map_map]
  exact storable.keys

theorem bySeq_eq : (history.foldl (Facts.index crates) (.created pubKey)).bySeq =
    (other.foldl (Facts.index crates) (.created pubKey)).bySeq := by
  have distinct : ((history.map (Stored.messageFact crates)).map MessageFact.flumeSeq).Nodup := by
    have seqs := storable.seqs.map asI64_injective
    rwa [List.map_map] at seqs ⊢
  rw [Facts.foldl_index, Facts.foldl_index]
  exact insertionSort_eq_of_perm (perm.map (Stored.messageFact crates)) distinct

theorem abouts_perm : (history.foldl (Facts.index crates) (.created pubKey)).shown.abouts.Perm
    (other.foldl (Facts.index crates) (.created pubKey)).shown.abouts := by
  have same := messagesOf_perm crates pubKey perm storable
  unfold Facts.shown
  simp only [same]
  rw [Facts.foldl_index, Facts.foldl_index]
  exact (perm.filterMap Stored.aboutFact).flatMap_right _

theorem shownAlike : ShownAlike (history.foldl (Facts.index crates) (.created pubKey)).shown
    (other.foldl (Facts.index crates) (.created pubKey)).shown := by
  have bySeq := bySeq_eq crates pubKey perm storable
  have seqs : (history.foldl (Facts.index crates) (.created pubKey)).seqsWhere =
      (other.foldl (Facts.index crates) (.created pubKey)).seqsWhere := by
    funext condition
    rw [Facts.seqsWhere, Facts.seqsWhere, bySeq]
  have seqByKey : (history.foldl (Facts.index crates) (.created pubKey)).seqByKey =
      (other.foldl (Facts.index crates) (.created pubKey)).seqByKey := by
    funext key
    simp only [Facts.seqByKey, seqs]
  have abouts := abouts_perm crates pubKey perm storable
  -- Every list of facts is put together from what each message adds to it.
  rw [Facts.foldl_index, Facts.foldl_index] at *
  exact
    { messages := .of_eq bySeq
      links := perm.flatMap_right _
      blobLinks := perm.flatMap_right _
      branches := perm.flatMap_right _
      contacts := perm.filterMap _
      abouts := abouts
      keys := by
        simp only [Facts.shown, numbered_contents]
        exact eraseDups_perm (perm.flatMap_right _)
      authors := by
        simp only [Facts.shown, numbered_contents]
        exact eraseDups_perm ((perm.flatMap_right _).cons pubKey)
      blobs := by
        simp only [Facts.shown, numbered_contents]
        exact eraseDups_perm (perm.flatMap_right _)
      latest := by
        have largest := max?_perm ((perm.map (Stored.messageFact crates)).map MessageFact.flumeSeq)
        simp only [Facts.shown, Facts.created, List.nil_append, largest]
      seqByKey := seqByKey
      seqsByType := fun _ => .of_eq (congrFun seqs _)
      seqsByAuthor := fun _ => .of_eq (congrFun seqs _) }

end

theorem reads_perm {items others : List (Sequence × Bytes)} (perm : items.Perm others) {history : List Stored}
    (reads : items.map (Stored.read crates secretKeys) = history.map some) :
    ∃ other, others.map (Stored.read crates secretKeys) = other.map some ∧ history.Perm other := by
  have all : ∀ item ∈ others, (Stored.read crates secretKeys item).isSome := by
    intro item member
    have listed : Stored.read crates secretKeys item ∈ history.map some :=
      reads ▸ List.mem_map_of_mem (perm.mem_iff.mpr member)
    obtain ⟨stored, -, same⟩ := List.mem_map.mp listed
    rw [← same]
    rfl
  have collected : items.filterMap (Stored.read crates secretKeys) = history := by
    have read := congrArg (List.filterMap id) reads
    rwa [List.filterMap_map, List.filterMap_map, Function.id_comp, Function.id_comp, List.filterMap_some] at read
  refine ⟨others.filterMap (Stored.read crates secretKeys), ?_, collected ▸ perm.filterMap _⟩
  rw [map_some_filterMap, List.filter_eq_self.mpr all]

theorem order_irrelevant {calls others : List Call} (perm : (calls.flatMap Call.items).Perm (others.flatMap Call.items))
    (returned : ((Action.forEach calls (Call.perform crates secretKeys)).run (created pubKey)).outcome = .ok ()) :
    ((Action.forEach others (Call.perform crates secretKeys)).run (created pubKey)).outcome = .ok () ∧
      ShownAlike ((Action.forEach calls (Call.perform crates secretKeys)).run (created pubKey)).state.db.shown
        ((Action.forEach others (Call.perform crates secretKeys)).run (created pubKey)).state.db.shown := by
  obtain ⟨history, reads, storable, represents⟩ :=
    (calls_follow crates secretKeys pubKey calls).ok (Ended.eq_of_outcome returned)
  obtain ⟨other, reads', alike⟩ := reads_perm crates secretKeys perm reads
  obtain ⟨_, after, ended, other', reads'', -, represents'⟩ := ((calls_follow crates secretKeys pubKey others).mono
    (fun _ _ => id) fun _ refuses => refuses ⟨other, reads', storable.perm alike⟩).returns
  cases (List.map_injective_iff.mpr (Option.some_injective Stored)) (reads'.symm.trans reads'')
  rw [ended, represents.shown, represents'.shown]
  refine ⟨rfl, ?_⟩
  exact shownAlike crates pubKey alike storable

/-- Two posts, the later one first. -/
theorem order_irrelevant_posts :
    ((Action.forEach [.append 115 (logItem "%d"), .append 0 (logItem "%a")]
      (Call.perform logCrates [()])).run (created "@me")).outcome = .ok () ∧
    ShownAlike
      ((Action.forEach [.appendBatch [(0, logItem "%a"), (115, logItem "%d")]]
        (Call.perform logCrates [()])).run (created "@me")).state.db.shown
      ((Action.forEach [.append 115 (logItem "%d"), .append 0 (logItem "%a")]
        (Call.perform logCrates [()])).run (created "@me")).state.db.shown :=
  order_irrelevant logCrates [()] "@me" (List.Perm.swap _ _ _) (by decide +kernel)

end FlumeViewSql
