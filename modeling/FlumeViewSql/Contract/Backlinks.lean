import FlumeViewSql.Contract.Messages
import FlumeViewSql.Source.Modifiers

/-! The modifiers that join through the `links` view, against the columns that view has. -/

set_option autoImplicit false

namespace FlumeViewSql

open Execution Relational
open Json (Value)

/-! ### Queries that name the ends of a link -/

def linkEnds : List Column := [Modifiers.linkFrom, Modifiers.linkTo]

/-- The links view has `link_from_key` and `link_to_key` instead. -/
theorem linkEnds_unknown (db : Db) {column : Column} (member : column ∈ linkEnds) :
    (Scope.cross (.one "links" (.of linksColumns db.linksView))
      (.one "messages" (.of messagesColumns db.messagesView))).candidates column = [] ∧
    (Scope.cross (.one "messages" (.of messagesColumns db.messagesView))
      (.one "links" (.of linksColumns db.linksView))).candidates column = [] := by
  simp only [linkEnds, List.mem_cons, List.not_mem_nil, or_false] at member
  rcases member with rfl | rfl
  · exact ⟨rfl, rfl⟩
  · exact ⟨rfl, rfl⟩

section
variable (db : Db) (columns : List Column)

theorem joinLinks_fails {column : Column} (member : column ∈ linkEnds) :
    ∃ why, ((⟨columns, "messages", [], []⟩ : Query Cell).join "links" column Modifiers.key).run db.view Cell.equals =
      .error why := by
  apply Query.run_unknown Cell.equals rfl (linkEnds_unknown db member).2
  · exact List.mem_cons_self
  · exact List.mem_cons_self

theorem joinLinksFrom_fails :
    ∃ why, (joinLinksFrom ⟨columns, "messages", [], []⟩).run db.view Cell.equals = .error why :=
  joinLinks_fails db columns (by decide)

theorem joinLinksTo_fails :
    ∃ why, (joinLinksTo ⟨columns, "messages", [], []⟩).run db.view Cell.equals = .error why :=
  joinLinks_fails db columns (by decide)

theorem backLinksReferences_fails (id : String) :
    ∃ why, (backLinksReferences ⟨columns, "links", [], []⟩ id).run db.view Cell.equals = .error why := by
  have member : Modifiers.linkFrom ∈ linkEnds := by decide
  apply Query.run_unknown Cell.equals rfl (linkEnds_unknown db member).1
  · exact List.mem_cons_self
  · exact List.mem_cons_self

end

/-! ### Backlinks -/

/-- The keys of the messages that link to `id`, but neither name it as their root nor are of the
three types that are left out. -/
def backlinks (history : List Stored) (id : String) : List String :=
  (history.filter fun stored => id ∈ stored.content.stringsUnder "link" ∧ stored.root ≠ some id ∧
    ∀ contentType ∈ ["about", "vote", "tag"], stored.contentType ≠ some contentType).map Stored.key

/-- The query runs, and the keys it returns in its first column are the backlinks of `id`. -/
def BacklinksExact (history : List Stored) (db : Db) (others : List Column) (id : String) : Prop :=
  ∃ rows, (backLinksReferences ⟨Modifiers.linkFrom :: others, Modifiers.links, [], []⟩ id).run db.view Cell.equals =
      .ok rows ∧
    ∀ cell, cell ∈ rows.filterMap List.head? ↔ ∃ key ∈ backlinks history id, cell = .text key

theorem backlinks_never_exact (history : List Stored) (db : Db) (others : List Column) (id : String) :
    ¬ BacklinksExact history db others id := by
  rintro ⟨rows, ran, -⟩
  obtain ⟨why, failed⟩ := backLinksReferences_fails db (Modifiers.linkFrom :: others) id
  cases ran.symm.trans failed

def backlinkItem : Bytes := document "%a" "@b" (linkText "%c")

def backlinkCrates : Crates Unit :=
  .reading [(backlinkItem, documented "%a" "@b" (linkContent "%c"))] fun _ => linkText "%c"

def backlinkRun : Ended SqlError (Connection Db) Unit :=
  (Action.forEach [.append 0 backlinkItem] (Call.perform backlinkCrates [])).run (created "@me")

/-- `%a` links to `%c`, and the view shows it; the query for the backlinks of `%c` does not run. -/
theorem backlinks_no_such_column : backlinkRun.outcome = .ok () ∧
    (Stored.read backlinkCrates [] (0, backlinkItem)).map (fun stored => backlinks [stored] "%c") = some ["%a"] ∧
    (backlinkRun.state.db.linksView.map fun row => (row.linkFromKey, row.linkToKey)) = [("%a", "%c")] ∧
    (backLinksReferences ⟨[Modifiers.linkFrom], Modifiers.links, [], []⟩ "%c").run backlinkRun.state.db.view
      Cell.equals = .error (.noSuchColumn Modifiers.linkFrom) := by
  decide +kernel

end FlumeViewSql
