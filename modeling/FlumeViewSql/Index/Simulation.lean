import FlumeViewSql.Index.Represents

/-! Every insert function does to the tables what it should do to the facts.

One lemma for each function of the source. `storeMessage` either records its message
and returns, or stops before any row of `messages_raw` is written; it stops exactly
when a branch is no string or the message is there already.
-/

set_option autoImplicit false

namespace FlumeViewSql

open Execution Relational
open Json (Value)

/-- The walk collects what stands under the key in the objects inside, in pre-order. -/
theorem findValuesInObjectByKey_eq (key : String) (value : Value) (values : List Value) :
    findValuesInObjectByKey key value values = values ++ value.valuesUnder key := by
  induction value generalizing values with
  | array size element ih =>
    simp only [findValuesInObjectByKey, ih, Value.valuesUnder_array]
    rw [List.foldl_append_eq_append, ← List.flatMap_def]
  | object names member ih =>
    -- A member that is neither array nor object has nothing inside it, visited or not.
    have visited : findValuesInObjectByKey key (.object names member) values =
        (List.finRange names.list.length).foldl (fun found position => found ++ (member position).valuesUnder key)
          (values ++ ((Value.object names member).get key).toList) := by
      rw [findValuesInObjectByKey]
      refine (List.foldl_ext _ _ _ fun found position _ => ?_).trans (congrArg (List.foldl _ · _) ?_)
      · split
        · exact ih position found
        · exact ih position found
        · next notArray notObject =>
          cases inside : member position with
          | array size element => exact absurd inside (notArray size element)
          | object names' member' => exact absurd inside (notObject names' member')
          | _ => simp [Value.valuesUnder, Value.nodes, Value.get]
      · cases (Value.object names member).get key <;> simp
    rw [visited, Value.valuesUnder_object, List.foldl_append_eq_append, ← List.flatMap_def, List.append_assoc]
  | _ => simp [findValuesInObjectByKey, Value.valuesUnder, Value.nodes, Value.get]

/-- The database after an insert function: it holds `facts`, and no number changed its string. -/
structure Recorded (before : Db) (facts : Facts) (after : Db) : Prop where
  represents : Represents after facts
  grows : before.names.Extends after.names

theorem Represents.recorded {db : Db} {facts : Facts} (represents : Represents db facts) :
    Recorded db facts db := ⟨represents, .refl _⟩

theorem Recorded.trans {first second third : Db} {facts later : Facts} (early : Recorded first facts second)
    (late : Recorded second later third) : Recorded first later third :=
  ⟨late.represents, early.grows.trans late.grows⟩

section
variable {connection : Connection Db} {facts : Facts} (represents : Represents connection.db facts)
include represents

theorem findOrCreateKey_ends (key : String) :
    Action.Ends (findOrCreateKey key) connection
      (fun rowid after =>
        Recorded connection.db { facts with keyUses := facts.keyUses ++ [key] } after.db ∧
          Dictionary.Maps after.db.keys rowid key)
      fun _ => False := by
  obtain ⟨rowid, after, last, ended, interns⟩ := findOrCreate_interns keysTable key connection
  apply Action.Ends.of_ok ended
  exact ⟨⟨represents.useKey interns, ⟨interns.extends, .refl _, .refl _⟩⟩, interns.maps keysTable.names⟩

theorem findOrCreateAuthor_ends (author : String) :
    Action.Ends (findOrCreateAuthor author) connection
      (fun rowid after =>
        Recorded connection.db { facts with authorUses := facts.authorUses ++ [author] } after.db ∧
          Dictionary.Maps after.db.authors rowid author)
      fun _ => False := by
  obtain ⟨rowid, after, last, ended, interns⟩ := findOrCreate_interns authorsTable author connection
  apply Action.Ends.of_ok ended
  exact ⟨⟨represents.useAuthor interns, ⟨.refl _, interns.extends, .refl _⟩⟩, interns.maps authorsTable.names⟩

theorem findOrCreateBlob_ends (blob : String) :
    Action.Ends (findOrCreateBlob blob) connection
      (fun rowid after =>
        Recorded connection.db { facts with blobUses := facts.blobUses ++ [blob] } after.db ∧
          Dictionary.Maps after.db.blobs rowid blob)
      fun _ => False := by
  obtain ⟨rowid, after, last, ended, interns⟩ := findOrCreate_interns blobsTable blob connection
  apply Action.Ends.of_ok ended
  exact ⟨⟨represents.useBlob interns, ⟨.refl _, .refl _, interns.extends⟩⟩, interns.maps blobsTable.names⟩

end

/-- The strings among `links` that start with `pattern`. -/
def selected (pattern : String) (links : List Value) : List String :=
  (links.filterMap Value.asStr).filter (startsWith pattern)

/-- The loop over the strings that a message names: each is looked up, and one row is added for it.
`told seen` are the facts behind the strings of `seen`. -/
theorem forEachTarget_ends {ρ : Type} {table : TableIn Db ρ Unit fun _ => none} {find : String → Sql Db Int}
    {row : Int → Int → ρ} {connection : Connection Db} {messageKeyId : Int} {key : String}
    (maps : Dictionary.Maps connection.db.keys messageKeyId key) (told : List String → Facts)
    (use : Facts → String → Facts) (Named : Db → Int → String → Prop)
    (start : Represents connection.db (told []))
    (found : ∀ link {facts : Facts} {before : Connection Db}, Represents before.db facts →
      Action.Ends (find link) before
        (fun linkId middle => Recorded before.db (use facts link) middle.db ∧ Named middle.db linkId link)
        fun _ => False)
    (added : ∀ seen link linkId rowid db after, Represents db (use (told seen) link) →
      Dictionary.Maps db.keys messageKeyId key → Named db linkId link →
      after.rows = (table.read db).rows ++ [(rowid, row messageKeyId linkId)] →
      Represents (table.write db after) (told (seen ++ [link])))
    (apart : ∀ db after, (table.write db after).names = db.names) (links : List String) :
    Action.Ends (Action.forEach links fun link => do
        let linkId ← (find link).unwrap
        (Sql.insertInto table (row messageKeyId linkId)).unwrap) connection
      (fun _ after => Recorded connection.db (told links) after.db) fun _ => False := by
  apply Action.Ends.forEach fun seen (now : Connection Db) => Recorded connection.db (told seen) now.db
  · exact start.recorded
  · intro seen link rest before parts recorded
    apply (found link recorded.represents).unwrap.bind
    intro linkId middle ⟨used, named⟩
    obtain ⟨rowid, after, ended, rows⟩ := Sql.insertInto_free table (row messageKeyId linkId) middle rfl
    have grows := recorded.grows.trans used.grows
    apply Action.Ends.unwrap
    apply Action.Ends.of_ok ended
    constructor
    · exact added seen link linkId rowid middle.db after used.represents (maps.mono grows.keys) named rows
    · rw [apart]
      exact grows

section
variable {connection : Connection Db} {facts : Facts} (represents : Represents connection.db facts)
  {messageKeyId : Int} {key : String} (maps : Dictionary.Maps connection.db.keys messageKeyId key)
include represents maps

theorem insertLinks_ends (links : List Value) :
    Action.Ends (insertLinks links messageKeyId) connection
      (fun _ after => Recorded connection.db
        { facts with
          keyUses := facts.keyUses ++ selected "%" links
          links := facts.links ++ (selected "%" links).map (key, ·) } after.db)
      fun _ => False := by
  apply forEachTarget_ends maps
    (fun seen => { facts with keyUses := facts.keyUses ++ seen, links := facts.links ++ seen.map (key, ·) })
    (fun facts link => { facts with keyUses := facts.keyUses ++ [link] }) fun db => Dictionary.Maps db.keys
  · simpa using represents
  · exact fun link _ _ before => findOrCreateKey_ends before link
  · intro seen link linkId rowid db after used fromKey named rows
    have means : LinkRow.Means db.names (rowid, ⟨messageKeyId, linkId⟩) (key, link) := ⟨fromKey, named⟩
    simpa [linksRaw] using used.addLink means rows
  · exact fun _ _ => rfl

theorem insertMentions_ends (links : List Value) :
    Action.Ends (insertMentions links messageKeyId) connection
      (fun _ after => Recorded connection.db
        { facts with
          keyUses := facts.keyUses ++ selected "@" links
          mentions := facts.mentions ++ (selected "@" links).map (key, ·) } after.db)
      fun _ => False := by
  apply forEachTarget_ends maps
    (fun seen => { facts with keyUses := facts.keyUses ++ seen, mentions := facts.mentions ++ seen.map (key, ·) })
    (fun facts link => { facts with keyUses := facts.keyUses ++ [link] }) fun db => Dictionary.Maps db.keys
  · simpa using represents
  · exact fun link _ _ before => findOrCreateKey_ends before link
  · intro seen link linkId rowid db after used fromKey named rows
    have means : MentionRow.Means db.names (rowid, ⟨messageKeyId, linkId⟩) (key, link) := ⟨fromKey, named⟩
    simpa [mentionsRaw] using used.addMention means rows
  · exact fun _ _ => rfl

theorem insertBlobLinks_ends (links : List Value) :
    Action.Ends (insertBlobLinks links messageKeyId) connection
      (fun _ after => Recorded connection.db
        { facts with
          blobUses := facts.blobUses ++ selected "&" links
          blobLinks := facts.blobLinks ++ (selected "&" links).map (key, ·) } after.db)
      fun _ => False := by
  apply forEachTarget_ends maps
    (fun seen => { facts with blobUses := facts.blobUses ++ seen, blobLinks := facts.blobLinks ++ seen.map (key, ·) })
    (fun facts link => { facts with blobUses := facts.blobUses ++ [link] }) fun db => Dictionary.Maps db.blobs
  · simpa using represents
  · exact fun link _ _ before => findOrCreateBlob_ends before link
  · intro seen link linkId rowid db after used fromKey named rows
    have means : BlobLinkRow.Means db.names (rowid, ⟨messageKeyId, linkId⟩) (key, link) := ⟨fromKey, named⟩
    simpa [blobLinksRaw] using used.addBlobLink means rows
  · exact fun _ _ => rfl

end

section
variable {connection : Connection Db} {facts : Facts} (represents : Represents connection.db facts)
  {messageKeyId : Int} {stored : Stored} (maps : Dictionary.Maps connection.db.keys messageKeyId stored.key)
include represents maps

/-- `insert_branches` stops at once, or records every branch. -/
theorem insertBranches_ends :
    Action.Ends (insertBranches stored.message messageKeyId) connection
      (fun _ after => branches stored.content ≠ none ∧ Recorded connection.db
        { facts with
          keyUses := facts.keyUses ++ stored.branches
          branches := facts.branches ++ stored.branches.map (stored.key, ·) } after.db)
      (fun after => branches stored.content = none ∧ after = connection) := by
  refine Action.Ends.bind_unwrapOption ?_ fun absent => ⟨absent, rfl⟩
  intro collected (found : branches stored.content = some collected)
  have same : stored.branches = collected := by rw [Stored.branches, found, Option.getD_some]
  have present : branches stored.content ≠ none := Option.ne_none_iff_exists'.mpr ⟨collected, found⟩
  rw [same]
  have each : Action.Ends (Action.forEach collected fun branch => do
        let linkToKeyId ← (findOrCreateKey branch).unwrap
        (Sql.insertInto branchesRaw ⟨messageKeyId, linkToKeyId⟩).unwrap) connection
      (fun _ after => Recorded connection.db
        { facts with
          keyUses := facts.keyUses ++ collected
          branches := facts.branches ++ collected.map (stored.key, ·) } after.db) fun _ => False := by
    apply forEachTarget_ends maps
      (fun seen =>
        { facts with keyUses := facts.keyUses ++ seen, branches := facts.branches ++ seen.map (stored.key, ·) })
      (fun facts branch => { facts with keyUses := facts.keyUses ++ [branch] }) fun db => Dictionary.Maps db.keys
    · simpa using represents
    · exact fun branch _ _ before => findOrCreateKey_ends before branch
    · intro seen branch linkToKeyId rowid db after used fromKey named rows
      have means : BranchRow.Means db.names (rowid, ⟨messageKeyId, linkToKeyId⟩) (stored.key, branch) :=
        ⟨fromKey, named⟩
      simpa [branchesRaw] using used.addBranch means rows
    · exact fun _ _ => rfl
  exact each.mono (fun _ _ recorded => ⟨present, recorded⟩) fun _ => False.elim

end

/-- `root` and `fork`: a key is looked up only when the member is a string. -/
theorem findMemberKey_ends {connection : Connection Db} {facts : Facts} (represents : Represents connection.db facts)
    (content : Value) (name : String) :
    Action.Ends (findMemberKey content name) connection
      (fun rowid after =>
        Recorded connection.db
          { facts with keyUses := facts.keyUses ++ (content.index name).asStr.toList } after.db ∧
          Option.Rel (Dictionary.Maps after.db.keys) rowid (content.index name).asStr)
      fun _ => False := by
  unfold findMemberKey
  cases content.index name with
  | string key =>
    refine (findOrCreateKey_ends represents key).unwrap.bind fun id after ⟨recorded, found⟩ => ?_
    exact Action.Ends.pure ⟨recorded, .some found⟩
  | _ =>
    apply Action.Ends.pure
    exact ⟨by simpa [Value.asStr] using represents.recorded, .none⟩

theorem aboutTarget_ends {connection : Connection Db} {facts : Facts} (represents : Represents connection.db facts)
    {stored : Stored} {aboutKey : String} (about : stored.about = some aboutKey) :
    Action.Ends (aboutTarget aboutKey) connection
      (fun ids after => Recorded connection.db
        { facts with
          keyUses := facts.keyUses ++ stored.aboutKey.toList
          authorUses := facts.authorUses ++ stored.aboutAuthor.toList } after.db ∧
        Option.Rel (Dictionary.Maps after.db.authors) ids.1 stored.aboutAuthor ∧
        Option.Rel (Dictionary.Maps after.db.keys) ids.2 stored.aboutKey) fun _ => False := by
  unfold aboutTarget
  rw [Stored.aboutKey, Stored.aboutAuthor, about]
  split
  · next first =>
    refine (findOrCreateAuthor_ends represents aboutKey).unwrap.bind fun key after ⟨recorded, authorMaps⟩ => ?_
    apply Action.Ends.pure
    simpa [Option.filter, first] using And.intro recorded authorMaps
  · next first =>
    refine (findOrCreateKey_ends represents aboutKey).unwrap.bind fun key after ⟨recorded, keyMaps⟩ => ?_
    apply Action.Ends.pure
    simpa [Option.filter, first] using And.intro recorded keyMaps
  · next notAuthor notKey =>
    apply Action.Ends.pure
    have noAuthor : firstByte aboutKey ≠ some "@" := notAuthor
    have noKey : firstByte aboutKey ≠ some "%" := notKey
    simpa [Option.filter, noAuthor, noKey] using represents.recorded

section
variable {SecretKey : Type} (crates : Crates SecretKey)
variable {connection : Connection Db} {facts : Facts} (represents : Represents connection.db facts)
  {messageKeyId : Int} {stored : Stored} (maps : Dictionary.Maps connection.db.keys messageKeyId stored.key)
include represents maps

/-- `insert_message` interns its strings; then the row is added, or a constraint refuses it. -/
theorem insertMessage_ends :
    Action.Ends (insertMessage crates stored.message (asI64 stored.seq) messageKeyId stored.isDecrypted) connection
      (fun _ after => facts.Admits stored ∧ Recorded connection.db
        { facts with
          keyUses := facts.keyUses ++ stored.root.toList ++ stored.fork.toList
          authorUses := facts.authorUses ++ [stored.author]
          messages := facts.messages ++ [stored.messageFact crates] } after.db)
      (fun after => ¬ facts.Admits stored ∧ Recorded connection.db
        { facts with
          keyUses := facts.keyUses ++ stored.root.toList ++ stored.fork.toList
          authorUses := facts.authorUses ++ [stored.author] } after.db) := by
  refine (findMemberKey_ends represents stored.content "root").never.bind ?_
  intro rootKeyId rooted ⟨recorded, rootMaps⟩
  refine (findMemberKey_ends recorded.represents stored.content "fork").never.bind ?_
  intro forkKeyId forked ⟨recorded', forkMaps⟩
  refine (findOrCreateAuthor_ends recorded'.represents stored.author).never.bind ?_
  intro authorId now ⟨recorded'', authorMaps⟩
  have grows := (recorded.trans recorded').grows.trans recorded''.grows
  have keyMaps := maps.mono grows.keys
  generalize rowIs : MessageRow.mk _ _ _ _ _ _ _ _ _ _ = row
  have means : MessageRow.Means now.db.names (asI64 stored.seq, row) (stored.messageFact crates) := by
    subst rowIs
    exact
      { flumeSeq := rfl
        key := keyMaps
        root := rel_mono (recorded'.grows.trans recorded''.grows).keys rootMaps
        fork := rel_mono recorded''.grows.keys forkMaps
        author := authorMaps
        seq := rfl
        receivedTime := rfl
        assertedTime := rfl
        contentType := rfl
        content := rfl
        isDecrypted := rfl }
  have admits := recorded''.represents.admits_iff means.key
  by_cases admitted : facts.Admits stored
  · obtain ⟨after, ended, rows⟩ := Sql.insertAt_admitted messagesRaw row now (admits.mpr admitted)
    apply Action.Ends.of_ok ended
    exact ⟨admitted, recorded''.represents.addMessage means admitted.1 rows, grows⟩
  · apply Action.Ends.of_error (Sql.insertAt_refused messagesRaw row now (mt admits.mp admitted))
    exact ⟨admitted, recorded''.represents, grows⟩

omit maps in
theorem insertOrUpdateContacts_ends :
    Action.Ends (insertOrUpdateContacts stored.message messageKeyId stored.isDecrypted) connection
      (fun _ after => Recorded connection.db
        { facts with
          authorUses := facts.authorUses ++ stored.contact.toList.flatMap fun contact => [stored.author, contact]
          contacts := facts.contacts ++ stored.contactFact.toList } after.db)
      fun _ => False := by
  unfold insertOrUpdateContacts Stored.contactFact Stored.contact Stored.content
  cases stored.message.value.content.index "contact" with
  | string contact =>
    refine (findOrCreateAuthor_ends represents stored.author).unwrap.bind ?_
    intro authorId middle ⟨recorded, authorMaps⟩
    refine (findOrCreateAuthor_ends recorded.represents contact).unwrap.bind ?_
    intro contactAuthorId now ⟨recorded', contactMaps⟩
    apply Action.Ends.unwrap
    obtain ⟨rowid, after, ended, rows⟩ := Sql.insertInto_free contactsRaw
      ⟨authorId, contactAuthorId, stored.isDecrypted, contactState stored.content⟩ now rfl
    apply Action.Ends.of_ok ((Sql.replaceInto_free rfl).trans ended)
    have means : ContactRow.Means now.db.names
        (rowid, ⟨authorId, contactAuthorId, stored.isDecrypted, contactState stored.content⟩)
        (stored.author, contact, stored.isDecrypted, contactState stored.content) :=
      { author := authorMaps.mono recorded'.grows.authors, contact := contactMaps, isDecrypted := rfl, state := rfl }
    have added := recorded'.represents.addContact means rows
    exact ⟨by simpa [contactsRaw, Value.asStr, Stored.content] using added, recorded.grows.trans recorded'.grows⟩
  | _ =>
    apply Action.Ends.pure
    simpa [Value.asStr] using represents.recorded

theorem insertAbouts_ends :
    Action.Ends (insertAbouts stored.message messageKeyId) connection
      (fun _ after => Recorded connection.db
        { facts with
          keyUses := facts.keyUses ++ stored.aboutKey.toList
          authorUses := facts.authorUses ++ stored.aboutAuthor.toList
          abouts := facts.abouts ++ stored.aboutFact.toList } after.db)
      fun _ => False := by
  unfold insertAbouts
  cases found : stored.message.value.content.index "about" with
  | string aboutKey =>
    have about : stored.about = some aboutKey := by rw [Stored.about, Stored.content, found, Value.asStr]
    refine (aboutTarget_ends represents about).bind ?_
    intro (toAuthor, toKey) now ⟨recorded, authorRel, keyRel⟩
    obtain ⟨rowid, after, ended, rows⟩ := Sql.insertInto_free aboutsRaw ⟨messageKeyId, toAuthor, toKey⟩ now rfl
    apply Action.Ends.unwrap
    apply Action.Ends.of_ok ended
    have means : AboutRow.Means now.db.names (rowid, ⟨messageKeyId, toAuthor, toKey⟩)
        ⟨stored.key, stored.aboutAuthor, stored.aboutKey⟩ :=
      { fromKey := maps.mono recorded.grows.keys, toAuthor := authorRel, toKey := keyRel }
    have added := recorded.represents.addAbout means rows
    exact ⟨by simpa [aboutsRaw, Stored.aboutFact, about] using added, recorded.grows⟩
  | _ =>
    apply Action.Ends.pure
    simpa [Stored.aboutFact, Stored.aboutKey, Stored.aboutAuthor, Stored.about, Stored.content, found, Value.asStr]
      using represents.recorded

end

theorem selected_links (pattern : String) (stored : Stored) :
    selected pattern (findValuesInObjectByKey "link" stored.message.value.content []) = stored.targets pattern := by
  rw [findValuesInObjectByKey_eq, List.nil_append, selected, Stored.targets, Stored.content, Value.stringsUnder]

section
variable {SecretKey : Type} (crates : Crates SecretKey) {connection : Connection Db} {facts : Facts}
  (represents : Represents connection.db facts) (stored : Stored)
include represents

/-- Storing a message records it, or stops at a branch that is no string, or stops at the row
of `messages_raw`; what was written before a stop is exactly what the facts list. -/
theorem storeMessage_ends :
    Action.Ends (storeMessage crates stored.seq stored.isDecrypted stored.message) connection
      (fun _ after => (branches stored.content ≠ none ∧ facts.Admits stored) ∧
        Recorded connection.db (facts.index crates stored) after.db)
      (fun after =>
        (branches stored.content = none ∧ Recorded connection.db (facts.linked stored) after.db) ∨
        (branches stored.content ≠ none ∧ ¬ facts.Admits stored ∧
          Recorded connection.db (facts.prepared stored) after.db)) := by
  unfold storeMessage
  refine (findOrCreateKey_ends represents stored.key).unwrap.never.bind ?_
  intro messageKeyId keyed ⟨recorded, maps⟩
  refine (insertLinks_ends recorded.represents maps _).never.bind fun _ linked added => ?_
  replace recorded := recorded.trans added
  replace maps := maps.mono added.grows.keys
  refine (insertMentions_ends recorded.represents maps _).never.bind fun _ mentioned added => ?_
  replace recorded := recorded.trans added
  replace maps := maps.mono added.grows.keys
  refine (insertBlobLinks_ends recorded.represents maps _).never.bind fun _ blobbed added => ?_
  replace recorded := recorded.trans added
  replace maps := maps.mono added.grows.keys
  -- Up to here nothing can stop; the facts so far are those of `Facts.linked`.
  have soFar : Recorded connection.db (facts.linked stored) blobbed.db := by
    simpa [Facts.linked, selected_links] using recorded
  refine Action.Ends.bind ((insertBranches_ends soFar.represents maps).mono (fun _ _ => id) ?_) ?_
  · exact fun _ ⟨absent, same⟩ => .inl ⟨absent, same ▸ soFar⟩
  intro _ branched ⟨present, added⟩
  replace soFar := soFar.trans added
  replace maps := maps.mono added.grows.keys
  refine Action.Ends.bind ((insertMessage_ends crates soFar.represents maps).mono (fun _ _ => id) ?_) ?_
  · intro after ⟨refused, added⟩
    refine .inr ⟨present, refused, ?_⟩
    simpa [Facts.prepared, Facts.linked] using soFar.trans added
  intro _ inserted ⟨admitted, added⟩
  replace soFar := soFar.trans added
  replace maps := maps.mono added.grows.keys
  refine (insertOrUpdateContacts_ends soFar.represents).never.bind fun _ contacted added => ?_
  replace soFar := soFar.trans added
  replace maps := maps.mono added.grows.keys
  apply (insertAbouts_ends soFar.represents maps).never.mono _ fun _ => id
  intro _ after added
  refine ⟨⟨present, admitted⟩, ?_⟩
  simpa [Facts.index, Facts.linked, Stored.keyUses, Stored.authorUses] using soFar.trans added

end

end FlumeViewSql
