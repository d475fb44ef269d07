import FlumeViewSql.Contract.Lookups
import FlumeViewSql.Index.Machine
import FlumeViewSql.Index.Regular
import FlumeViewSql.Index.Views

/-! What the tables keep to over any history, calls that stop included.

A refused `append` leaves rows behind and a failed batch takes its rows back; neither leaves a
gap in the ids, an id that stands for nothing, or a row that a view would drop or show twice.
-/

set_option autoImplicit false

namespace FlumeViewSql

open Execution Relational

/-! ### Ids -/

structure IdsDense (pubKey : String) (db : Db) : Prop where
  keys : db.keys.Dense
  authors : db.authors.Dense
  blobs : db.blobs.Dense
  linksRaw : db.linksRaw.Dense
  mentionsRaw : db.mentionsRaw.Dense
  blobLinksRaw : db.blobLinksRaw.Dense
  branchesRaw : db.branchesRaw.Dense
  contactsRaw : db.contactsRaw.Dense
  aboutsRaw : db.aboutsRaw.Dense
  me : (db.authors.rows.filter fun row => row.2.isMe = some true) = [(1, ⟨pubKey, some true⟩)]

theorem Db.Regular.me_alone {pubKey : String} {db : Db} (regular : db.Regular pubKey) :
    (db.authors.rows.filter fun row => row.2.isMe = some true) = [(1, ⟨pubKey, some true⟩)] := by
  have first : (db.authors.rows.filter fun row => row.1 = 1) = [(1, ⟨pubKey, some true⟩)] :=
    filter_eq_singleton db.authors.rowids regular.me
  rw [← first]
  apply List.filter_congr
  intro row member
  rw [regular.isMe row member]
  by_cases isFirst : row.1 = 1 <;> simp [isFirst]

section
variable {SecretKey : Type} (crates : Crates SecretKey) (secretKeys : List SecretKey) (pubKey : String)
  (calls : List Call)

theorem ids_dense : IdsDense pubKey (connectionAfter crates secretKeys pubKey calls).db := by
  have regular := history_regular crates secretKeys pubKey calls
  obtain ⟨represents, -⟩ := history_follows crates secretKeys pubKey calls
  exact
    { keys := represents.keys.dense
      authors := represents.authors.dense
      blobs := represents.blobs.dense
      linksRaw := regular.linksRaw
      mentionsRaw := regular.mentionsRaw
      blobLinksRaw := regular.blobLinksRaw
      branchesRaw := regular.branchesRaw
      contactsRaw := regular.contactsRaw
      aboutsRaw := regular.aboutsRaw
      me := regular.me_alone }

theorem tables_determined {others : List Call}
    (same : (indexing crates secretKeys).run calls (.created pubKey) =
      (indexing crates secretKeys).run others (.created pubKey)) :
    (connectionAfter crates secretKeys pubKey calls).db = (connectionAfter crates secretKeys pubKey others).db := by
  obtain ⟨represents, -⟩ := history_follows crates secretKeys pubKey calls
  obtain ⟨represents', -⟩ := history_follows crates secretKeys pubKey others
  rw [← same] at represents'
  exact db_eq_of_facts represents represents' (history_regular crates secretKeys pubKey calls)
    (history_regular crates secretKeys pubKey others)

end

deriving instance DecidableEq for Facts

/-- An entry that is refused after it was appended leaves nothing that was not there. -/
theorem tables_determined_refused :
    (connectionAfter lookupCrates [] "@me" [.append 7 lookupItem]).db =
      (connectionAfter lookupCrates [] "@me" [.appendBatch [(7, lookupItem)], .appendBatch [(3, lookupItem)]]).db :=
  tables_determined lookupCrates [] "@me" [.append 7 lookupItem] (by decide +kernel)

/-! ### Views -/

/-- Every about belongs to a message that was stored. -/
def Facts.AboutsBelong (facts : Facts) : Prop :=
  ∀ about ∈ facts.abouts, about.fromKey ∈ facts.messages.map MessageFact.key

theorem aboutsBelong_index {SecretKey : Type} (crates : Crates SecretKey) {facts : Facts}
    (belong : facts.AboutsBelong) (stored : Stored) : (facts.index crates stored).AboutsBelong := by
  intro about member
  simp only [Facts.index, List.mem_append, Option.mem_toList, List.map_append] at member ⊢
  rcases member with earlier | own
  · exact .inl (belong about earlier)
  · obtain ⟨-, -, rfl⟩ := Option.map_eq_some_iff.mp own
    exact .inr (List.mem_singleton_self _)

theorem aboutsBelong_refused {facts : Facts} (belong : facts.AboutsBelong) (stored : Stored) :
    (facts.refused stored).AboutsBelong := by
  unfold Facts.refused
  split
  · exact belong
  · exact belong

section
variable {db : Db} {facts : Facts} (represents : Represents db facts)
include represents

/-- The message that an about belongs to is the only one joined to it. -/
theorem messages_of_about (belong : facts.AboutsBelong) {about : AboutFact} (member : about ∈ facts.abouts)
    {keyId : Int} (maps : Dictionary.Maps db.keys keyId about.fromKey) :
    ∃ message, (db.messagesView.filter fun row => row.keyId = keyId) = [message] := by
  obtain ⟨message, present, same⟩ := List.mem_map.mp (belong about member)
  have single := filter_eq_singleton represents.messageKeys_nodup present
  rw [same, ← messagesView_of_keyId represents maps] at single
  exact List.length_eq_one_iff.mp (by simpa using congrArg List.length single)

end

section
variable {SecretKey : Type} (crates : Crates SecretKey) (secretKeys : List SecretKey) (pubKey : String)
  (calls : List Call)

theorem history_belong : Represents (connectionAfter crates secretKeys pubKey calls).db
      ((indexing crates secretKeys).run calls (.created pubKey)) ∧
    ((indexing crates secretKeys).run calls (.created pubKey)).AboutsBelong := by
  refine ⟨(history_follows crates secretKeys pubKey calls).1, ?_⟩
  apply indexing_invariant Facts.AboutsBelong
  · exact fun _ stored belong _ => aboutsBelong_index crates belong stored
  · exact fun _ stored belong _ => aboutsBelong_refused belong stored
  · exact fun about member => absurd member List.not_mem_nil

end

end FlumeViewSql
