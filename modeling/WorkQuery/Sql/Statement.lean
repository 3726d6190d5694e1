/-
This file holds the two statements that a query is run with: one counts the matching work packages,
the other reads a page of them. Only the page is given apart from the statement, as two bound
values; a colon elsewhere would read as a bound value too and is escaped before a statement is
sent.
-/

import WorkQuery.Sql.Join
import WorkQuery.Sql.Selection

namespace WorkQuery.Sql

/-- The tables that statements read: the work packages with the rows that are joined to them. -/
def fromClause : String :=
  "\n".intercalate ("FROM work_packages wp" :: joins.map Join.render)

/-- The fields that a page reads. -/
def selectList : String :=
  ",\n".intercalate (Field.all.map fun field => "    wp." ++ field.name)

/-- A text in which every colon is escaped. -/
def escapeColons (text : String) : String :=
  String.ofList (text.toList.flatMap fun character =>
    if character = ':' then ['\\', ':'] else [character])

/-- The statement that counts, for the text of the conditions. -/
def countText (whereText : String) : String :=
  "\n".intercalate (["SELECT COUNT(*) AS count", fromClause] ++
    (if whereText = "" then [] else ["WHERE " ++ whereText]))

/-- The statement that reads a page, for the texts of the conditions and of the order. -/
def selectText (whereText orderText : String) : String :=
  "\n".intercalate (["SELECT", selectList, fromClause] ++
    (if whereText = "" then [] else ["WHERE " ++ whereText]) ++
    [orderText, "LIMIT :limit OFFSET :offset"])

end WorkQuery.Sql
