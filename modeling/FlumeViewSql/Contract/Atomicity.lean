import FlumeViewSql.Contract.Messages
import FlumeViewSql.Index.Growth

/-! When `FlumeView::append`, which has no transaction around it, is atomic.

A stopped append leaves whatever was written before the stop. Since the database only
grows, it is unchanged exactly when no table got longer.
-/

set_option autoImplicit false

namespace FlumeViewSql

open Execution Relational

def Db.sizes (db : Db) : List Nat :=
  [db.keys.rows.length, db.authors.rows.length, db.blobs.rows.length, db.messagesRaw.rows.length,
    db.linksRaw.rows.length, db.mentionsRaw.rows.length, db.blobLinksRaw.rows.length, db.branchesRaw.rows.length,
    db.contactsRaw.rows.length, db.aboutsRaw.rows.length]

def Facts.sizes (facts : Facts) : List Nat :=
  [facts.keyUses.eraseDups.length, facts.authorUses.eraseDups.length, facts.blobUses.eraseDups.length,
    facts.messages.length, facts.links.length, facts.mentions.length, facts.blobLinks.length, facts.branches.length,
    facts.contacts.length, facts.abouts.length]

theorem numbers_length {ρ : Type} {text : ρ → String} {dictionary : Dictionary ρ String text} {uses : List String}
    (numbers : dictionary.Numbers uses) : dictionary.rows.length = uses.eraseDups.length := by
  have lengths := congrArg List.length numbers
  simpa [numbered] using lengths

theorem Represents.sizes {db : Db} {facts : Facts} (represents : Represents db facts) : db.sizes = facts.sizes := by
  rw [Db.sizes, Facts.sizes, numbers_length represents.keys, numbers_length represents.authors,
    numbers_length represents.blobs, represents.messages.length_eq, facts.bySeq_perm.length_eq,
    represents.links.length_eq,
    represents.mentions.length_eq, represents.blobLinks.length_eq, represents.branches.length_eq,
    represents.contacts.length_eq, represents.abouts.length_eq]

theorem Db.Grows.eq_of_sizes {before after : Db} (grows : before.Grows after) (same : after.sizes = before.sizes) :
    after = before := by
  simp only [Db.sizes, List.cons.injEq, and_true] at same
  obtain ⟨keys, authors, blobs, messages, links, mentions, blobLinks, branches, contacts, abouts⟩ := same
  cases before
  cases after
  simp only [Db.mk.injEq]
  exact ⟨Table.ext (grows.keys.eq_of_length keys.symm).symm, Table.ext (grows.authors.eq_of_length authors.symm).symm,
    Table.ext (grows.blobs.eq_of_length blobs.symm).symm,
    Table.ext (grows.messagesRaw.eq_of_length messages.symm).symm,
    Table.ext (grows.linksRaw.eq_of_length links.symm).symm,
    Table.ext (grows.mentionsRaw.eq_of_length mentions.symm).symm,
    Table.ext (grows.blobLinksRaw.eq_of_length blobLinks.symm).symm,
    Table.ext (grows.branchesRaw.eq_of_length branches.symm).symm,
    Table.ext (grows.contactsRaw.eq_of_length contacts.symm).symm,
    Table.ext (grows.aboutsRaw.eq_of_length abouts.symm).symm⟩

theorem unchanged_iff {before after : Db} {facts facts' : Facts} (grows : before.Grows after)
    (represents : Represents before facts) (represents' : Represents after facts') :
    after = before ↔ facts'.sizes = facts.sizes := by
  rw [← represents.sizes, ← represents'.sizes]
  exact ⟨congrArg Db.sizes, grows.eq_of_sizes⟩

/-- The message writes nothing before `insert_branches`: its key is interned and it links to nothing. -/
def Facts.QuietBefore (facts : Facts) (stored : Stored) : Prop :=
  stored.key ∈ facts.keyUses ∧ ∀ pattern ∈ ["%", "@", "&"], stored.targets pattern = []

theorem sizes_linked_iff {facts : Facts} {stored : Stored} :
    (facts.linked stored).sizes = facts.sizes ↔ facts.QuietBefore stored := by
  simp only [Facts.sizes, Facts.linked, List.cons.injEq, Facts.QuietBefore, List.append_assoc, List.length_append,
    List.length_map, length_eraseDups_append_iff]
  simp only [and_true, true_and, Nat.add_eq_left, List.length_eq_zero_iff, List.forall_mem_cons, List.not_mem_nil,
    List.cons_append, List.forall_mem_append, false_imp_iff, implies_true]
  constructor
  · rintro ⟨⟨key, -, -⟩, -, links, mentions, blobs⟩
    exact ⟨key, links, mentions, blobs⟩
  · rintro ⟨key, links, mentions, blobs⟩
    simp [key, links, mentions, blobs]

theorem sizes_prepared_iff {facts : Facts} {stored : Stored} :
    (facts.prepared stored).sizes = facts.sizes ↔ facts.QuietBefore stored ∧ stored.branches = [] ∧
      (∀ key ∈ stored.root.toList ++ stored.fork.toList, key ∈ facts.keyUses) ∧ stored.author ∈ facts.authorUses := by
  simp only [Facts.sizes, Facts.prepared, Facts.linked, List.cons.injEq, Facts.QuietBefore, List.append_assoc,
    List.length_append, List.length_map, length_eraseDups_append_iff]
  simp only [and_true, true_and, Nat.add_eq_left, List.length_eq_zero_iff, List.forall_mem_cons, List.not_mem_nil,
    List.cons_append, List.forall_mem_append, false_imp_iff, implies_true]
  constructor
  · rintro ⟨⟨key, -, -, -, root, fork⟩, author, -, links, mentions, blobs, branches⟩
    exact ⟨⟨key, links, mentions, blobs⟩, branches, ⟨root, fork⟩, author⟩
  · rintro ⟨⟨key, links, mentions, blobs⟩, branches, ⟨root, fork⟩, author⟩
    rw [links, mentions, blobs, branches]
    exact ⟨⟨key, by simp, by simp, by simp, root, fork⟩, author, by simp, rfl, rfl, rfl, rfl⟩

/-! ### The contract of `append` -/

def Db.edges (db : Db) : List (String × String) × List (String × String × Int) × List (String × String) ×
    List (String × String) × List (String × Option String × Option String) :=
  (db.linksView.map fun row => (row.linkFromKey, row.linkToKey),
    db.mentionsView.map fun row => (row.linkFrom, row.linkTo, row.flumeSeq),
    db.blobLinksView.map fun row => (row.linkFromKey, row.linkToBlob),
    db.resolvedBranches,
    db.aboutsView.map fun row => (row.linkFromKey, row.linkToAuthor, row.linkToKey))

variable {SecretKey : Type} (crates : Crates SecretKey) (secretKeys : List SecretKey)

structure AppendAtomic (connection : Connection Db) (seq : Sequence) (item : Bytes) : Prop where
  allOrNothing : Action.Ends (append crates secretKeys seq item) connection
    (fun _ after => ∃ stored facts, Stored.read crates secretKeys (seq, item) = some stored ∧
      Represents connection.db facts ∧ Represents after.db (facts.index crates stored))
    (fun after => after.db = connection.db)
  sameAsBatch : ((append crates secretKeys seq item).run connection).state.db =
    ((appendBatch crates secretKeys [(seq, item)]).run connection).state.db
  /-- A retry with another seq after a failed append has the effect of a first try. -/
  retry : ((append crates secretKeys seq item).run connection).outcome ≠ .ok () → ∀ seq',
    ((append crates secretKeys seq' item).run
      ((append crates secretKeys seq item).run connection).state).state.db.edges =
    ((append crates secretKeys seq' item).run connection).state.db.edges

/-- An append either succeeds, or is refused before it has written anything. -/
def AppendsOrQuiet (db : Db) (stored : Stored) : Prop :=
  (BranchesAreStrings stored.content ∧ db.Lacks stored.seq stored.key) ∨
  ((stored.key ∈ db.keys.rows.map (fun row => row.2.key) ∧
      ∀ pattern ∈ ["%", "@", "&"], stored.targets pattern = []) ∧
    (BranchesAreStrings stored.content → stored.branches = [] ∧
      (∀ key ∈ stored.root.toList ++ stored.fork.toList, key ∈ db.keys.rows.map fun row => row.2.key) ∧
      stored.author ∈ db.authors.rows.map fun row => row.2.author))

section
variable {connection after : Connection Db} {seq : Sequence} {item : Bytes}

theorem appendBatch_singleton_ok
    (ended : (append crates secretKeys seq item).run connection = ⟨.ok (), after⟩) :
    (appendBatch crates secretKeys [(seq, item)]).run connection = ⟨.ok (), after⟩ := by
  apply Action.run_transaction_ok
  rw [Action.forEach_cons]
  exact Action.bind_of_ok _ ended

theorem appendBatch_singleton_error {why : Stop SqlError}
    (ended : (append crates secretKeys seq item).run connection = ⟨.error why, after⟩) :
    (appendBatch crates secretKeys [(seq, item)]).run connection =
      ⟨.error why, ⟨connection.db, after.lastInsertRowid⟩⟩ := by
  apply Action.run_transaction_error
  rw [Action.forEach_cons]
  exact Action.bind_of_error _ ended

theorem appendAtomic_iff_unchanged {why : Stop SqlError}
    (ended : (append crates secretKeys seq item).run connection = ⟨.error why, after⟩) :
    AppendAtomic crates secretKeys connection seq item ↔ after.db = connection.db := by
  constructor
  · intro atomic
    exact atomic.allOrNothing.error ended
  · intro same
    refine ⟨.of_error ended same, ?_, fun _ seq' => ?_⟩
    · rw [ended, appendBatch_singleton_error crates secretKeys ended]
      exact same
    · rw [ended]
      have again := (append_adds crates secretKeys seq' item).respects after connection same
      exact congrArg Db.edges again.2

end

section
variable {db : Db} {facts : Facts} (represents : Represents db facts)
include represents

theorem Represents.mem_keys {key : String} : key ∈ db.keys.rows.map (fun row => row.2.key) ↔ key ∈ facts.keyUses := by
  rw [← represents.keys.mem_iff, Dictionary.maps_iff_mem]

theorem Represents.mem_authors {author : String} :
    author ∈ db.authors.rows.map (fun row => row.2.author) ↔ author ∈ facts.authorUses := by
  rw [← represents.authors.mem_iff, Dictionary.maps_iff_mem]

theorem appendsOrQuiet_iff (stored : Stored) : AppendsOrQuiet db stored ↔
    (branches stored.content ≠ none ∧ facts.Admits stored) ∨ (facts.QuietBefore stored ∧
      (branches stored.content ≠ none → stored.branches = [] ∧
        (∀ key ∈ stored.root.toList ++ stored.fork.toList, key ∈ facts.keyUses) ∧
        stored.author ∈ facts.authorUses)) := by
  rw [AppendsOrQuiet, represents.lacks_iff, ← branches_ne_none_iff, Facts.QuietBefore]
  simp only [represents.mem_keys, represents.mem_authors]

end

theorem append_atomic_iff (pubKey : String) (calls : List Call) (seq : Sequence) (item : Bytes) :
    AppendAtomic crates secretKeys (connectionAfter crates secretKeys pubKey calls) seq item ↔
      ∀ stored, Stored.read crates secretKeys (seq, item) = some stored →
        AppendsOrQuiet (connectionAfter crates secretKeys pubKey calls).db stored := by
  obtain ⟨facts, represents, -⟩ := history_messages crates secretKeys pubKey calls
  generalize connectionAfter crates secretKeys pubKey calls = connection at represents
  have ends := (appendItem_ends crates secretKeys represents (seq, item)).unwrap
  rcases Action.run_cases (append crates secretKeys seq item) connection with ⟨_, after, ended⟩ | ⟨why, after, ended⟩
  · obtain ⟨stored, read, accepted, recorded⟩ := ends.ok ended
    constructor
    · intro _ stored' read'
      cases read.symm.trans read'
      exact (appendsOrQuiet_iff represents stored).mpr (.inl accepted)
    · intro _
      refine ⟨.of_ok ended ⟨stored, facts, read, represents, recorded.represents⟩, ?_, fun failed => ?_⟩
      · rw [ended, appendBatch_singleton_ok crates secretKeys ended]
      · rw [ended] at failed
        exact absurd rfl failed
  · rw [appendAtomic_iff_unchanged crates secretKeys ended]
    have grows := (append_adds crates secretKeys seq item).grows connection
    rw [ended] at grows
    rcases ends.error ended with ⟨unread, rfl⟩ | ⟨stored, read, stopped⟩
    · simp [unread]
    · have only : (∀ stored', Stored.read crates secretKeys (seq, item) = some stored' →
          AppendsOrQuiet connection.db stored') ↔ AppendsOrQuiet connection.db stored := by
        simp [read]
      rw [only, appendsOrQuiet_iff represents]
      -- It stopped at a branch, or at the row of `messages_raw`; each leaves its own facts behind.
      rcases stopped with ⟨absent, recorded⟩ | ⟨present, refused, recorded⟩
      · rw [unchanged_iff grows represents recorded.represents, sizes_linked_iff]
        simp [absent]
      · rw [unchanged_iff grows represents recorded.represents, sizes_prepared_iff]
        simp [present, refused]

def linkItem : Bytes := document "%d" "@b" (linkText "%a")

def linkCrates : Crates Unit :=
  .reading [(postItem, documented "%a" "@b" postContent), (linkItem, documented "%d" "@b" (linkContent "%a"))]
    fun content => if content.index "link" |>.isString then linkText "%a" else postText

/-- A message appended under a seq that is taken is refused, but its link stays. -/
theorem refused_append_leaves_link :
    (connectionAfter linkCrates [] "@me" [.append 0 postItem]).db.linksView = [] ∧
    ((append linkCrates [] 0 linkItem).run (connectionAfter linkCrates [] "@me" [.append 0 postItem])).outcome =
      .error .panic ∧
    ((append linkCrates [] 0 linkItem).run
        (connectionAfter linkCrates [] "@me" [.append 0 postItem])).state.db.linksView.map
      (fun row => (row.linkFromKey, row.linkToKey)) = [("%d", "%a")] := by
  decide +kernel

end FlumeViewSql
