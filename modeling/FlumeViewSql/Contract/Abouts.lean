import FlumeViewSql.Contract.Edges

/-! The abouts view after any history of successful calls. -/

set_option autoImplicit false

namespace FlumeViewSql

open Execution Relational
open Json (Value)

theorem firstByte_eq_iff {text : String} (first : Char) (ascii : first.utf8Size = 1) :
    firstByte text = some (.ofList [first]) ↔ startsWith (.ofList [first]) text = true := by
  unfold firstByte startsWith
  rw [String.toList_ofList]
  cases text.toList with
  | nil => simp
  | cons head rest =>
    by_cases same : head = first
    · simp [same, ascii]
    · simp [same, Ne.symm same]

/-- What the view should show of a message with an about: its key and content, and the author or
the message that it is about. -/
def Stored.aboutShown {SecretKey : Type} (crates : Crates SecretKey) (stored : Stored) :
    Option (String × Cell × Option String × Option String) :=
  stored.about.map fun about =>
    (stored.key, crates.contentCell stored.content, if startsWith "@" about then some about else none,
      if startsWith "%" about then some about else none)

theorem filter_firstByte {about pattern : String}
    (same : firstByte about = some pattern ↔ startsWith pattern about = true) :
    ((some about).filter fun about => firstByte about = some pattern) =
      if startsWith pattern about then some about else none := by
  rw [Option.filter_some]
  by_cases starts : startsWith pattern about = true
  · simp [starts, same.mpr starts]
  · simp [starts, mt same.mp starts]

section
variable {SecretKey : Type} {crates : Crates SecretKey} {pubKey : String} {history : List Stored} {db : Db}
  (represents : Represents db (history.foldl (Facts.index crates) (.created pubKey)))
include represents

theorem about_of_member {stored : Stored} (member : stored ∈ history) :
    (stored.aboutFact.toList.flatMap fun about =>
      ((history.map (Stored.messageFact crates)).filter fun message => message.key = about.fromKey).map fun message =>
        (about.fromKey, message.content, about.toAuthor, about.toKey)) = (stored.aboutShown crates).toList := by
  unfold Stored.aboutFact Stored.aboutShown Stored.aboutAuthor Stored.aboutKey
  cases stored.about with
  | none => rfl
  | some about =>
    have toAuthor : (some about).filter (fun about => firstByte about = some "@") = _ :=
      filter_firstByte (firstByte_eq_iff '@' rfl)
    have toKey : (some about).filter (fun about => firstByte about = some "%") = _ :=
      filter_firstByte (firstByte_eq_iff '%' rfl)
    simp only [Option.map_some, Option.toList_some, List.flatMap_singleton, messagesOf represents member,
      List.map_singleton, toAuthor, toKey]
    rfl

theorem aboutsView_eq :
    db.aboutsView.map (fun row => (row.linkFromKey, row.content, row.linkToAuthor, row.linkToKey)) =
      history.filterMap (Stored.aboutShown crates) := by
  rw [aboutsView_facts represents, Facts.foldl_index]
  simp only [Facts.created, List.nil_append]
  rw [List.filterMap_eq_flatMap_toList, List.filterMap_eq_flatMap_toList, List.flatMap_assoc]
  apply List.flatMap_congr
  exact fun stored member => about_of_member represents member

end

section
variable {SecretKey : Type} (crates : Crates SecretKey) (secretKeys : List SecretKey) (pubKey : String)
  (calls : List Call) (connection : Connection Db)
  (ran : (Action.forEach calls (Call.perform crates secretKeys)).run (created pubKey) = ⟨.ok (), connection⟩)
include ran

theorem abouts_exact : ∃ history : List Stored,
    (calls.flatMap Call.items).map (Stored.read crates secretKeys) = history.map some ∧
      connection.db.aboutsView.map (fun row => (row.linkFromKey, row.content, row.linkToAuthor, row.linkToKey)) =
        history.filterMap (Stored.aboutShown crates) := by
  obtain ⟨history, appended⟩ := history_facts crates secretKeys pubKey calls ran
  exact ⟨history, appended.read, aboutsView_eq appended.represents⟩

end

def aboutContent (about : String) : Value :=
  .object ⟨["about", "type"], by decide⟩ ![.string about, .string "about"]

def aboutText (about : String) : String := "\x7b\"about\":\"" ++ about ++ "\",\"type\":\"about\"\x7d"

def aboutItem (key about : String) : Bytes := document key "@b" (aboutText about)

def aboutCrates : Crates Unit :=
  .reading [(aboutItem "%a" "@c", documented "%a" "@b" (aboutContent "@c")),
      (aboutItem "%d" "", documented "%d" "@b" (aboutContent ""))]
    fun content => aboutText ((content.index "about").asStr.getD "")

def aboutRun : Ended SqlError (Connection Db) Unit :=
  (Action.forEach [.append 0 (aboutItem "%a" "@c"), .append 500 (aboutItem "%d" "")]
    (Call.perform aboutCrates [])).run (created "@me")

theorem abouts_exact_author : ∃ history : List Stored,
    [(0, aboutItem "%a" "@c"), (500, aboutItem "%d" "")].map (Stored.read aboutCrates []) = history.map some ∧
      aboutRun.state.db.aboutsView.map
          (fun row => (row.linkFromKey, row.content, row.linkToAuthor, row.linkToKey)) =
        history.filterMap (Stored.aboutShown aboutCrates) :=
  abouts_exact aboutCrates [] "@me" [.append 0 (aboutItem "%a" "@c"), .append 500 (aboutItem "%d" "")] aboutRun.state
    (Ended.eq_of_outcome (by decide +kernel))

end FlumeViewSql
