import FlumeViewSql.Contract.Refinement
import FlumeViewSql.Index.Regular

/-! What calls that stop leave behind, measured against the same history without them.

A stopped `append` leaves strings and edges, which no later call takes for a message. A stopped
`append_batch` leaves nothing.
-/

set_option autoImplicit false

namespace FlumeViewSql

open Execution Relational

/-- The first facts hold what the second do; the leftovers are edges and interned strings. -/
structure Facts.Leftover (facts replayed : Facts) : Prop where
  messages : facts.messages = replayed.messages
  contacts : facts.contacts = replayed.contacts
  abouts : facts.abouts = replayed.abouts
  links : replayed.links.Sublist facts.links
  mentions : replayed.mentions.Sublist facts.mentions
  blobLinks : replayed.blobLinks.Sublist facts.blobLinks
  branches : replayed.branches.Sublist facts.branches
  keyUses : replayed.keyUses.Sublist facts.keyUses
  authorUses : replayed.authorUses.Sublist facts.authorUses
  blobUses : replayed.blobUses.Sublist facts.blobUses

theorem Facts.Leftover.refl (facts : Facts) : facts.Leftover facts :=
  ⟨rfl, rfl, rfl, .refl _, .refl _, .refl _, .refl _, .refl _, .refl _, .refl _⟩

section
variable {SecretKey : Type} (crates : Crates SecretKey) (secretKeys : List SecretKey)

theorem Facts.Leftover.index {facts replayed : Facts} (leftover : facts.Leftover replayed) (stored : Stored) :
    (facts.index crates stored).Leftover (replayed.index crates stored) where
  messages := congrArg (· ++ _) leftover.messages
  contacts := congrArg (· ++ _) leftover.contacts
  abouts := congrArg (· ++ _) leftover.abouts
  links := leftover.links.append (.refl _)
  mentions := leftover.mentions.append (.refl _)
  blobLinks := leftover.blobLinks.append (.refl _)
  branches := leftover.branches.append (.refl _)
  keyUses := leftover.keyUses.append (.refl _)
  authorUses := leftover.authorUses.append (.refl _)
  blobUses := leftover.blobUses.append (.refl _)

theorem Facts.Leftover.linked {facts replayed : Facts} (leftover : facts.Leftover replayed) (stored : Stored) :
    (facts.linked stored).Leftover replayed :=
  { leftover with
    links := leftover.links.trans (List.sublist_append_left _ _)
    mentions := leftover.mentions.trans (List.sublist_append_left _ _)
    blobLinks := leftover.blobLinks.trans (List.sublist_append_left _ _)
    keyUses := (leftover.keyUses.trans (List.sublist_append_left _ _)).trans (List.sublist_append_left _ _)
    blobUses := leftover.blobUses.trans (List.sublist_append_left _ _) }

theorem Facts.Leftover.refused {facts replayed : Facts} (leftover : facts.Leftover replayed) (stored : Stored) :
    (facts.refused stored).Leftover replayed := by
  have linked := leftover.linked stored
  unfold Facts.refused
  split
  · exact linked
  · exact
      { linked with
        branches := leftover.branches.trans (List.sublist_append_left _ _)
        keyUses := ((linked.keyUses.trans (List.sublist_append_left _ _)).trans
          (List.sublist_append_left _ _)).trans (List.sublist_append_left _ _)
        authorUses := leftover.authorUses.trans (List.sublist_append_left _ _) }

/-- Whether an entry is accepted depends on the messages alone. -/
theorem recording_leaves : (recording crates secretKeys).Follows Facts.Leftover where
  accepts := by
    intro facts replayed item facts' leftover accepted
    obtain ⟨stored, read, accepts, rfl⟩ := recording_accept_eq_some.mp accepted
    have again : replayed.Accepts stored := by
      unfold Facts.Accepts Facts.Admits at accepts ⊢
      rwa [← leftover.messages]
    exact ⟨_, recording_accept_eq_some.mpr ⟨stored, read, again, rfl⟩, leftover.index crates stored⟩
  refuses := by
    intro facts replayed item leftover _
    have left : (recording crates secretKeys).refuse facts item =
        ((Stored.read crates secretKeys item).map facts.refused).getD facts := rfl
    rw [left]
    cases Stored.read crates secretKeys item with
    | none => exact leftover
    | some stored => exact leftover.refused stored

theorem indexing_leaves : (indexing crates secretKeys).Follows Facts.Leftover where
  accepts := by
    intro facts replayed call facts' leftover accepted
    cases call with
    | append seq item => exact (recording_leaves crates secretKeys).accepts facts replayed _ facts' leftover accepted
    | appendBatch items =>
      exact (recording_leaves crates secretKeys).batched.accepts facts replayed items facts' leftover accepted
  refuses := by
    intro facts replayed call leftover refused
    cases call with
    | append seq item => exact (recording_leaves crates secretKeys).refuses facts replayed _ leftover refused
    | appendBatch items =>
      exact (recording_leaves crates secretKeys).batched.refuses facts replayed items leftover refused

/-- What is shown with the leftovers of stopped calls, and without. Mentions are left out: which of
them are shown depends on ids. -/
structure ShownLeftover (all replayed : Shown) : Prop where
  messages : all.messages = replayed.messages
  contacts : all.contacts = replayed.contacts
  abouts : all.abouts = replayed.abouts
  latest : all.latest = replayed.latest
  seqByKey : all.seqByKey = replayed.seqByKey
  seqsByType : all.seqsByType = replayed.seqsByType
  seqsByAuthor : all.seqsByAuthor = replayed.seqsByAuthor
  links : replayed.links.Sublist all.links
  blobLinks : replayed.blobLinks.Sublist all.blobLinks
  branches : replayed.branches.Sublist all.branches
  keys : replayed.keys.map Prod.snd ⊆ all.keys.map Prod.snd
  authors : replayed.authors.map Prod.snd ⊆ all.authors.map Prod.snd
  blobs : replayed.blobs.map Prod.snd ⊆ all.blobs.map Prod.snd

theorem Facts.Leftover.shown {facts replayed : Facts} (leftover : facts.Leftover replayed) :
    ShownLeftover facts.shown replayed.shown := by
  have interned : ∀ {uses others : List String}, uses.Sublist others →
      (numbered uses.eraseDups).map Prod.snd ⊆ (numbered others.eraseDups).map Prod.snd := by
    intro uses others less key used
    rw [numbered_contents, List.mem_eraseDups] at used ⊢
    exact less.subset used
  have bySeq := Facts.bySeq_congr leftover.messages
  have seqs : facts.seqsWhere = replayed.seqsWhere := by
    funext condition
    rw [Facts.seqsWhere, Facts.seqsWhere, bySeq]
  have messagesOf : facts.messagesOf = replayed.messagesOf := by
    funext key
    rw [Facts.messagesOf, Facts.messagesOf, leftover.messages]
  exact
    { messages := bySeq
      contacts := leftover.contacts
      abouts := by
        unfold Facts.shown
        rw [leftover.abouts, messagesOf]
      latest := by
        unfold Facts.shown
        rw [leftover.messages]
      seqByKey := by
        funext key
        simp only [Facts.shown, Facts.seqByKey, seqs]
      seqsByType := by
        funext contentType
        simp only [Facts.shown, seqs]
      seqsByAuthor := by
        funext author
        simp only [Facts.shown, seqs]
      links := leftover.links
      blobLinks := leftover.blobLinks
      branches := leftover.branches
      keys := interned leftover.keyUses
      authors := interned leftover.authorUses
      blobs := interned leftover.blobUses }

variable (pubKey : String)

/-- The calls of a history that returned all return when they are made alone, and the messages, contacts,
abouts and lookups are then the same: what stopped calls leave is edges and interned strings. -/
theorem refusals_confined (calls : List Call) :
    Action.returned (Call.perform crates secretKeys)
        (Action.returned (Call.perform crates secretKeys) calls (created pubKey)) (created pubKey) =
      Action.returned (Call.perform crates secretKeys) calls (created pubKey) ∧
    ShownLeftover (connectionAfter crates secretKeys pubKey calls).db.shown
      (connectionAfter crates secretKeys pubKey
        (Action.returned (Call.perform crates secretKeys) calls (created pubKey))).db.shown := by
  obtain ⟨represents, returned⟩ := history_follows crates secretKeys pubKey calls
  rw [returned]
  obtain ⟨represents', returned'⟩ := history_follows crates secretKeys pubKey
    ((indexing crates secretKeys).accepted calls (.created pubKey))
  obtain ⟨leftover, same⟩ := (indexing_leaves crates secretKeys).replay calls (Facts.Leftover.refl (.created pubKey))
  rw [returned', represents.shown, represents'.shown]
  exact ⟨same, leftover.shown⟩

theorem failed_batches_traceless (batches : List (List (Sequence × Bytes))) :
    (connectionAfter crates secretKeys pubKey (batches.map .appendBatch)).db =
      (connectionAfter crates secretKeys pubKey
        (Action.returned (Call.perform crates secretKeys) (batches.map .appendBatch) (created pubKey))).db := by
  obtain ⟨represents, returned⟩ := history_follows crates secretKeys pubKey (batches.map .appendBatch)
  have alone := history_follows crates secretKeys pubKey
    ((indexing crates secretKeys).accepted (batches.map .appendBatch) (.created pubKey))
  have follows : ((indexing crates secretKeys).comap Call.appendBatch).Follows Eq := by
    constructor
    · rintro facts _ items facts' rfl accepted
      exact ⟨facts', accepted, rfl⟩
    · rintro facts _ items rfl _
      rfl
  have same := (follows.replay batches (Eq.refl (Facts.created pubKey))).1
  rw [← Machine.run_map, ← Machine.run_map, ← Machine.accepted_map] at same
  rw [← same] at alone
  rw [returned]
  exact db_eq_of_facts represents alone.1 (history_regular crates secretKeys pubKey _)
    (history_regular crates secretKeys pubKey _)

end

end FlumeViewSql
