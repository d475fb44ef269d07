import FlumeViewSql.Source.SqlViews

/-! The query modifiers of `modifiers.js`, on queries as knex builds them. -/

set_option autoImplicit false

namespace FlumeViewSql

open Relational

/-- SQL's `=`. An integer and a real are compared as numbers there; no modifier compares a real. -/
def Cell.equals : Cell → Cell → Truth
  | .null, _ | _, .null => none
  | first, second => some (first = second)

namespace Modifiers

def links : String := "links"

def messages : String := "messages"

def key : Column := ⟨some messages, "key"⟩

def messageType : Column := ⟨some messages, "content_type"⟩

def messageRoot : Column := ⟨some messages, "root"⟩

def messageFork : Column := ⟨some messages, "fork"⟩

def isDecrypted : Column := ⟨some messages, "is_decrypted"⟩

def linkFrom : Column := ⟨some links, "link_from"⟩

def linkTo : Column := ⟨some links, "link_to"⟩

end Modifiers

section
open Modifiers

variable (query : Query Cell)

def whereMessageType (typeString : String) : Query Cell := query.whereEqual messageType (.text typeString)

def whereMessageIsNotType (typeString : String) : Query Cell := query.whereNot messageType (.text typeString)

def whereMessageIsNotRoot (id : String) : Query Cell := query.whereNot messageRoot (.text id)

def whereMessageIsNotFork (id : String) : Query Cell := query.whereNot messageFork (.text id)

def whereMessageIsPrivate : Query Cell := query.whereEqual isDecrypted (.integer 1)

def whereMessageIsNotPrivate : Query Cell := query.whereNot isDecrypted (.integer 1)

def joinLinksFrom : Query Cell := query.join links linkFrom key

def joinMessagesOnLinksFrom : Query Cell := query.join messages linkFrom key

def joinLinksTo : Query Cell := query.join links linkTo key

def backLinksReferences (id : String) : Query Cell :=
  let query := joinMessagesOnLinksFrom query
  let query := whereMessageIsNotRoot query id
  let query := whereMessageIsNotType query "about"
  let query := whereMessageIsNotType query "vote"
  let query := whereMessageIsNotType query "tag"
  query.whereEqual linkTo (.text id)

end

end FlumeViewSql
