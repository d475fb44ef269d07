import FlumeViewSql.Contract.Messages
import FlumeViewSql.Json.Path

/-! What the edge relations hold after any history of successful calls. -/

set_option autoImplicit false

namespace FlumeViewSql

open Execution Relational
open Json (Value)

/-! ### Collecting links -/

/-- The collection appends one value for each object, at any depth, that stores one under the key,
in pre-order. -/
theorem findValuesInObjectByKey_preorder (key : String) (value : Value) (values : List Value) :
    ∃ paths : List (List Nat), ∃ collected : List Value,
      paths.Pairwise (· < ·) ∧ (∀ path, path ∈ paths ↔ ∃ found, value.storedAt key path = some found) ∧
        collected.map some = paths.map (value.storedAt key) ∧
        findValuesInObjectByKey key value values = values ++ collected := by
  refine ⟨value.paths.filter fun path => (value.storedAt key path).isSome, value.valuesUnder key, ?_, ?_, ?_, ?_⟩
  · exact value.paths_increasing.sublist List.filter_sublist
  · intro path
    rw [List.mem_filter, Value.mem_paths_iff, Option.isSome_iff_exists]
    constructor
    · exact fun ⟨_, stored⟩ => stored
    · intro ⟨found, stored⟩
      obtain ⟨inside, led, -⟩ := Option.bind_eq_some_iff.mp stored
      exact ⟨⟨inside, led⟩, found, stored⟩
  · rw [Value.valuesUnder_eq_storedAt, map_some_filterMap]
  · exact findValuesInObjectByKey_eq key value values

/-! ### Links and branches -/

/-- The strings that `content.branch` names: itself, or its elements. -/
def branchStrings (content : Value) : List String :=
  match content.index "branch" with
  | .string branch => [branch]
  | .array _ element => (List.ofFn element).filterMap Value.asStr
  | _ => []

theorem branches_eq {content : Value} {collected : List String} (found : branches content = some collected) :
    branchStrings content = collected := by
  unfold branches at found
  unfold branchStrings Value.index
  cases member : content.get "branch" with
  | none =>
    rw [member] at found
    exact Option.some.inj found
  | some value =>
    rw [member] at found
    cases value with
    | array size element => exact filterMap_of_mapM found
    | _ => exact Option.some.inj found

theorem Stored.branches_eq {stored : Stored} (branched : FlumeViewSql.branches stored.content ≠ none) :
    stored.branches = branchStrings stored.content := by
  obtain ⟨collected, found⟩ := Option.ne_none_iff_exists'.mp branched
  rw [Stored.branches, found, Option.getD_some, FlumeViewSql.branches_eq found]

/-- The edge relations of `history`, by strings: one edge for each occurrence. -/
structure EdgesExact (history : List Stored) (db : Db) : Prop where
  links : db.linksView.map (fun row => (row.linkFromKey, row.linkToKey)) =
    history.flatMap fun stored => ((stored.content.stringsUnder "link").filter (startsWith "%")).map (stored.key, ·)
  blobLinks : db.blobLinksView.map (fun row => (row.linkFromKey, row.linkToBlob)) =
    history.flatMap fun stored => ((stored.content.stringsUnder "link").filter (startsWith "&")).map (stored.key, ·)
  branches : db.resolvedBranches =
    history.flatMap fun stored => (branchStrings stored.content).map (stored.key, ·)

section
variable {SecretKey : Type} (crates : Crates SecretKey) (secretKeys : List SecretKey) (pubKey : String)
  (calls : List Call) (connection : Connection Db)
  (ran : (Action.forEach calls (Call.perform crates secretKeys)).run (created pubKey) = ⟨.ok (), connection⟩)
include ran

theorem edges_exact : ∃ history : List Stored,
    (calls.flatMap Call.items).map (Stored.read crates secretKeys) = history.map some ∧
      EdgesExact history connection.db := by
  obtain ⟨history, appended⟩ := history_facts crates secretKeys pubKey calls ran
  refine ⟨history, appended.read, ?_, ?_, ?_⟩
  · rw [linksView_facts appended.represents, Facts.foldl_index]
    rfl
  · rw [blobLinksView_facts appended.represents, Facts.foldl_index]
    rfl
  · rw [resolvedBranches_facts appended.represents, Facts.foldl_index]
    simp only [Facts.created, List.nil_append]
    apply List.flatMap_congr
    intro stored member
    rw [Stored.branches_eq (appended.branched stored member)]

end

/-- `{"branch":["%c"],"link":"%d","type":"post"}` -/
def replyContent : Value :=
  .object ⟨["branch", "link", "type"], by decide⟩ ![.array 1 ![.string "%c"], .string "%d", .string "post"]

def replyText : String := "\x7b\"branch\":[\"%c\"],\"link\":\"%d\",\"type\":\"post\"\x7d"

def replyItem : Bytes := document "%a" "@b" replyText

def replyCrates : Crates Unit := .reading [(replyItem, documented "%a" "@b" replyContent)] fun _ => replyText

def replyConnection : Connection Db :=
  ((Action.forEach [.append 0 replyItem] (Call.perform replyCrates [])).run (created "@me")).state

theorem edges_exact_reply : ∃ history : List Stored,
    [(0, replyItem)].map (Stored.read replyCrates []) = history.map some ∧ EdgesExact history replyConnection.db :=
  edges_exact replyCrates [] "@me" [.append 0 replyItem] replyConnection (Ended.eq_of_outcome (by decide +kernel))

/-! ### Mentions -/

def mentions (history : List Stored) : List (String × String) :=
  history.flatMap fun stored => (stored.targets "@").map (stored.key, ·)

/-- The mentions view shows each mention once, with the seq of its message, and each row of
`mentions_raw` holds the author's number of the string it was written for. -/
structure MentionsExact (history : List Stored) (db : Db) : Prop where
  view : (db.mentionsView.map fun row => (row.linkFrom, row.linkTo, row.flumeSeq)).Perm
    (history.flatMap fun stored => (stored.targets "@").map fun mention =>
      (stored.key, mention, (stored.seq.toNat : Int)))
  authors : List.Forall₂ (fun row mention => Dictionary.Maps db.authors row.2.linkToAuthorId mention.2)
    db.mentionsRaw.rows (mentions history)

/-- Every mentioned string came into `keys` at the place at which it came into `authors`, and
under a seq that SQLite holds unchanged. -/
def MentionsAligned (pubKey : String) (history : List Stored) : Prop :=
  ∀ stored ∈ history, ∀ mention ∈ stored.targets "@", stored.seq.toNat < 2 ^ 63 ∧
    ∀ position : Nat, (history.flatMap Stored.keyUses).eraseDups[position]? = some mention →
      (pubKey :: history.flatMap Stored.authorUses).eraseDups[position]? = some mention

section
variable {SecretKey : Type} {crates : Crates SecretKey} {pubKey : String} {history : List Stored} {db : Db}
  (represents : Represents db (history.foldl (Facts.index crates) (.created pubKey)))
include represents

theorem mentionRows : List.Forall₂ (MentionRow.Means db.names) db.mentionsRaw.rows (mentions history) := by
  have rows := represents.mentions
  rwa [Facts.foldl_index] at rows

theorem mention_number_iff {rowid : Int} {mention : String} (maps : Dictionary.Maps db.keys rowid mention) :
    Dictionary.Maps db.authors rowid mention ↔
      ∀ position : Nat, (history.flatMap Stored.keyUses).eraseDups[position]? = some mention →
        (pubKey :: history.flatMap Stored.authorUses).eraseDups[position]? = some mention := by
  have keys := represents.keys
  have authors := represents.authors
  rw [Facts.foldl_index] at keys authors
  exact Dictionary.Numbers.same_number_iff keys authors maps

theorem messagesOf {stored : Stored} (member : stored ∈ history) :
    ((history.map (Stored.messageFact crates)).filter fun message => message.key = stored.key) =
      [stored.messageFact crates] := by
  have distinct := represents.messageKeys_nodup
  simp only [Facts.foldl_index, Facts.created, List.nil_append] at distinct
  exact Relational.filter_eq_singleton distinct (List.mem_map_of_mem member)

theorem mentionsView_eq
    (authors : List.Forall₂ (fun row mention => Dictionary.Maps db.authors row.2.linkToAuthorId mention.2)
      db.mentionsRaw.rows (mentions history)) :
    (db.mentionsView.map fun row => (row.linkFrom, row.linkTo, row.flumeSeq)) =
      history.flatMap fun stored => (stored.targets "@").map fun mention =>
        (stored.key, mention, asI64 stored.seq) := by
  have resolved : List.Forall₂ (fun row fact => Dictionary.Maps db.authors row.2.linkToAuthorId fact.2)
      db.mentionsRaw.rows (history.foldl (Facts.index crates) (.created pubKey)).mentions := by
    rw [Facts.foldl_index]
    exact authors
  rw [mentionsView_facts represents resolved, Facts.foldl_index]
  simp only [Facts.created, List.nil_append, List.flatMap_assoc]
  apply List.flatMap_congr
  intro stored member
  simp only [List.flatMap_map, messagesOf represents member, List.map_singleton, Stored.messageFact]
  rw [List.map_eq_flatMap]

theorem mentionsExact_iff : MentionsExact history db ↔ MentionsAligned pubKey history := by
  constructor
  · intro ⟨view, authors⟩ stored member mention mentioned
    have listed : (stored.key, mention) ∈ mentions history :=
      List.mem_flatMap.mpr ⟨stored, member, List.mem_map_of_mem mentioned⟩
    have both := authors.mp (fun _ _ author means => And.intro author means) (mentionRows represents)
    obtain ⟨row, -, author, means⟩ := exists_row_of_forall₂ both listed
    refine ⟨?_, (mention_number_iff represents means.2).mp author⟩
    -- The row that shows this mention can only be the one of its own message, whose seq it shows.
    rw [mentionsView_eq represents authors] at view
    have shown : (stored.key, mention, (stored.seq.toNat : Int)) ∈ history.flatMap fun other =>
        (other.targets "@").map fun target => (other.key, target, asI64 other.seq) :=
      view.mem_iff.mpr (List.mem_flatMap.mpr ⟨stored, member, List.mem_map_of_mem mentioned⟩)
    obtain ⟨other, present, shown⟩ := List.mem_flatMap.mp shown
    obtain ⟨target, -, same⟩ := List.mem_map.mp shown
    simp only [Prod.mk.injEq] at same
    obtain ⟨sameKey, -, sameSeq⟩ := same
    have single := messagesOf represents member
    have found : other.messageFact crates ∈
        (history.map (Stored.messageFact crates)).filter fun message => message.key = stored.key :=
      List.mem_filter.mpr ⟨List.mem_map_of_mem present, decide_eq_true sameKey⟩
    rw [single, List.mem_singleton] at found
    have seqs : asI64 other.seq = asI64 stored.seq := congrArg MessageFact.flumeSeq found
    have bound := asI64_lt stored.seq
    omega
  · intro aligned
    have authors : List.Forall₂ (fun row mention => Dictionary.Maps db.authors row.2.linkToAuthorId mention.2)
        db.mentionsRaw.rows (mentions history) := by
      apply forall₂_imp_mem (mentionRows represents)
      intro row fact listed means
      obtain ⟨stored, member, listed⟩ := List.mem_flatMap.mp listed
      obtain ⟨mention, mentioned, rfl⟩ := List.mem_map.mp listed
      exact (mention_number_iff represents means.2).mpr (aligned stored member mention mentioned).2
    refine ⟨?_, authors⟩
    rw [mentionsView_eq represents authors]
    apply List.Perm.of_eq
    apply List.flatMap_congr
    intro stored member
    apply List.map_congr_left
    intro mention mentioned
    rw [asI64_of_lt (aligned stored member mention mentioned).1]

end

section
variable {SecretKey : Type} (crates : Crates SecretKey) (secretKeys : List SecretKey) (pubKey : String)
  (calls : List Call) (connection : Connection Db)
  (ran : (Action.forEach calls (Call.perform crates secretKeys)).run (created pubKey) = ⟨.ok (), connection⟩)
include ran

/-- The mentions view is right exactly when the numbers of keys and authors happen to agree. -/
theorem mentions_exact_iff : ∃ history : List Stored,
    (calls.flatMap Call.items).map (Stored.read crates secretKeys) = history.map some ∧
      (MentionsExact history connection.db ↔ MentionsAligned pubKey history) := by
  obtain ⟨history, appended⟩ := history_facts crates secretKeys pubKey calls ran
  exact ⟨history, appended.read, mentionsExact_iff appended.represents⟩

end

def mentionItem : Bytes := document "%a" "@b" (linkText "@c")

def mentionCrates : Crates Unit :=
  .reading [(mentionItem, documented "%a" "@b" (linkContent "@c"))] fun _ => linkText "@c"

def mentionRun : Ended SqlError (Connection Db) Unit :=
  (Action.forEach [.append 0 mentionItem] (Call.perform mentionCrates [])).run (created "@me")

/-- A message of `@b` that mentions `@c` is shown as one that mentions `@b`: the key `@c` and the
author `@b` are both number 2. -/
theorem mention_of_another : mentionRun.outcome = .ok () ∧
    (Stored.read mentionCrates [] (0, mentionItem)).map (Stored.targets · "@") = some ["@c"] ∧
    (mentionRun.state.db.mentionsView.map fun row => (row.linkFrom, row.linkTo, row.flumeSeq)) = [("%a", "@b", 0)] := by
  decide +kernel

theorem mentions_exact_iff_mention : ∃ history : List Stored,
    [(0, mentionItem)].map (Stored.read mentionCrates []) = history.map some ∧
      (MentionsExact history mentionRun.state.db ↔ MentionsAligned "@me" history) :=
  mentions_exact_iff mentionCrates [] "@me" [.append 0 mentionItem] mentionRun.state
    (Ended.eq_of_outcome (by decide +kernel))

/-! ### Contacts -/

/-- Who says something about whom, and whether privately. -/
def contactEdge (fact : String × String × Bool × Int) : String × String × Bool := (fact.1, fact.2.1, fact.2.2.1)

/-- For every edge the table holds the last contact message alone, or nothing when there is none. -/
def ContactsCurrent (history : List Stored) (db : Db) : Prop :=
  ∀ edge, (db.resolvedContacts.filter fun row => contactEdge row = edge) =
    ((history.filterMap Stored.contactFact).filter fun fact => contactEdge fact = edge).getLast?.toList

section
variable {SecretKey : Type} (crates : Crates SecretKey) (secretKeys : List SecretKey) (pubKey : String)
  (calls : List Call) (connection : Connection Db)
  (ran : (Action.forEach calls (Call.perform crates secretKeys)).run (created pubKey) = ⟨.ok (), connection⟩)
include ran

theorem contacts_current_iff : ∃ history : List Stored,
    (calls.flatMap Call.items).map (Stored.read crates secretKeys) = history.map some ∧
      (ContactsCurrent history connection.db ↔ ((history.filterMap Stored.contactFact).map contactEdge).Nodup) := by
  obtain ⟨history, appended⟩ := history_facts crates secretKeys pubKey calls ran
  refine ⟨history, appended.read, ?_⟩
  have contacts : connection.db.resolvedContacts = history.filterMap Stored.contactFact := by
    rw [resolvedContacts_facts appended.represents, Facts.foldl_index]
    rfl
  rw [ContactsCurrent, contacts, selects_last_iff_nodup]

end

def contactContent (contact : String) (following : Bool) : Value :=
  .object ⟨["contact", "following", "type"], by decide⟩ ![.string contact, .bool following, .string "contact"]

def contactText (contact : String) (following : Bool) : String :=
  "\x7b\"contact\":\"" ++ contact ++ "\",\"following\":" ++ (if following then "true" else "false") ++
    ",\"type\":\"contact\"\x7d"

def followItem : Bytes := document "%a" "@b" (contactText "@c" true)

def unfollowItem : Bytes := document "%d" "@b" (contactText "@c" false)

def followOtherItem : Bytes := document "%e" "@b" (contactText "@f" true)

def contactCrates : Crates Unit :=
  .reading [(followItem, documented "%a" "@b" (contactContent "@c" true)),
      (unfollowItem, documented "%d" "@b" (contactContent "@c" false)),
      (followOtherItem, documented "%e" "@b" (contactContent "@f" true))]
    fun content => contactText ((content.index "contact").asStr.getD "") ((content.index "following").asBool.getD false)

def contactRun (calls : List Call) : Ended SqlError (Connection Db) Unit :=
  (Action.forEach calls (Call.perform contactCrates [])).run (created "@me")

theorem follow_survives : (contactRun [.append 0 followItem, .append 500 unfollowItem]).outcome = .ok () ∧
    (contactRun [.append 0 followItem, .append 500 unfollowItem]).state.db.resolvedContacts =
      [("@b", "@c", false, 1), ("@b", "@c", false, 0)] := by
  decide +kernel

theorem contacts_current_iff_follows : ∃ history : List Stored,
    [(0, followItem), (500, followOtherItem)].map (Stored.read contactCrates []) = history.map some ∧
      (ContactsCurrent history (contactRun [.append 0 followItem, .append 500 followOtherItem]).state.db ↔
        ((history.filterMap Stored.contactFact).map contactEdge).Nodup) :=
  contacts_current_iff contactCrates [] "@me" [.append 0 followItem, .append 500 followOtherItem]
    (contactRun [.append 0 followItem, .append 500 followOtherItem]).state (Ended.eq_of_outcome (by decide +kernel))

end FlumeViewSql
