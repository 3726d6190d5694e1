/-
This file holds the tables that queries run over: work packages, and the lookup tables of statuses,
types and enumerations. Only enumerations of one type are priorities. A field of a work package is
a name by which conditions and answers refer to a part of its row.
-/

import WorkQuery.Calendar.Moment
import WorkQuery.Json.Value

namespace WorkQuery

open Calendar Json Number

/-! ### Rows -/

/-- A status of work packages. -/
structure Status where
  id : Int
  name : String
  isClosed : Bool
  position : Option Int
deriving DecidableEq

/-- A type of work packages. -/
structure TypeEntry where
  id : Int
  name : String
  position : Option Int
deriving DecidableEq

/-- An entry of an enumeration. -/
structure Enumeration where
  id : Int
  name : String
  family : String
  position : Option Int
deriving DecidableEq

/-- The enumeration that priorities belong to. -/
def priorityFamily : String := "IssuePriority"

/-- A work package. -/
structure WorkPackage where
  id : Int
  subject : String
  description : Option String
  projectId : Int
  typeId : Int
  statusId : Int
  priorityId : Option Int
  authorId : Option Int
  assignedToId : Option Int
  responsibleId : Option Int
  categoryId : Option Int
  versionId : Option Int
  parentId : Option Int
  startDate : Option Date
  dueDate : Option Date
  estimatedHours : Option Binary64
  doneRatio : Int
  lockVersion : Int
  createdAt : Moment
  updatedAt : Moment
  position : Option Int
  storyPoints : Option Int
  remainingHours : Option Binary64
  scheduleManually : Bool
  duration : Option Int
deriving DecidableEq

/-- The four tables. -/
structure Tables where
  statuses : List Status
  types : List TypeEntry
  enumerations : List Enumeration
  workPackages : List WorkPackage

namespace Tables

/-- The tables without rows. -/
def empty : Tables := ⟨[], [], [], []⟩

end Tables

/-! ### Cells -/

/-- The content of one field of a row. -/
inductive Cell
  | null
  | integer (value : Int)
  | real (value : Binary64)
  | text (value : String)
  | day (value : Date)
  | moment (value : Moment)
  | truth (value : Bool)
deriving DecidableEq

namespace Cell

/-- A cell that may be empty. -/
def ofOption {Content : Type} (make : Content → Cell) : Option Content → Cell
  | some content => make content
  | none => null

/-- A cell in an answer. -/
def toValue : Cell → Value
  | null => .null
  | integer value => .int value
  | real value => .real value
  | text value => .text value
  | day value => .text value.text
  | moment value => .text value.text
  | truth value => .bool value

end Cell

/-! ### Fields -/

/-- The fields of a work package. -/
inductive Field
  | id
  | subject
  | description
  | projectId
  | typeId
  | statusId
  | priorityId
  | authorId
  | assignedToId
  | responsibleId
  | categoryId
  | versionId
  | parentId
  | startDate
  | dueDate
  | estimatedHours
  | doneRatio
  | lockVersion
  | createdAt
  | updatedAt
  | position
  | storyPoints
  | remainingHours
  | scheduleManually
  | duration
deriving DecidableEq, Repr

namespace Field

/-- Every field, in the order of the table. -/
def all : List Field :=
  [id, subject, description, projectId, typeId, statusId, priorityId, authorId, assignedToId,
   responsibleId, categoryId, versionId, parentId, startDate, dueDate, estimatedHours, doneRatio,
   lockVersion, createdAt, updatedAt, position, storyPoints, remainingHours, scheduleManually,
   duration]

/-- The name of a field. -/
def name : Field → String
  | id => "id"
  | subject => "subject"
  | description => "description"
  | projectId => "project_id"
  | typeId => "type_id"
  | statusId => "status_id"
  | priorityId => "priority_id"
  | authorId => "author_id"
  | assignedToId => "assigned_to_id"
  | responsibleId => "responsible_id"
  | categoryId => "category_id"
  | versionId => "version_id"
  | parentId => "parent_id"
  | startDate => "start_date"
  | dueDate => "due_date"
  | estimatedHours => "estimated_hours"
  | doneRatio => "done_ratio"
  | lockVersion => "lock_version"
  | createdAt => "created_at"
  | updatedAt => "updated_at"
  | position => "position"
  | storyPoints => "story_points"
  | remainingHours => "remaining_hours"
  | scheduleManually => "schedule_manually"
  | duration => "duration"

/-- The content of a field of a work package. -/
def cell (item : WorkPackage) : Field → Cell
  | id => .integer item.id
  | subject => .text item.subject
  | description => .ofOption .text item.description
  | projectId => .integer item.projectId
  | typeId => .integer item.typeId
  | statusId => .integer item.statusId
  | priorityId => .ofOption .integer item.priorityId
  | authorId => .ofOption .integer item.authorId
  | assignedToId => .ofOption .integer item.assignedToId
  | responsibleId => .ofOption .integer item.responsibleId
  | categoryId => .ofOption .integer item.categoryId
  | versionId => .ofOption .integer item.versionId
  | parentId => .ofOption .integer item.parentId
  | startDate => .ofOption .day item.startDate
  | dueDate => .ofOption .day item.dueDate
  | estimatedHours => .ofOption .real item.estimatedHours
  | doneRatio => .integer item.doneRatio
  | lockVersion => .integer item.lockVersion
  | createdAt => .moment item.createdAt
  | updatedAt => .moment item.updatedAt
  | position => .ofOption .integer item.position
  | storyPoints => .ofOption .integer item.storyPoints
  | remainingHours => .ofOption .real item.remainingHours
  | scheduleManually => .truth item.scheduleManually
  | duration => .ofOption .integer item.duration

end Field

/-- A work package in an answer. -/
def WorkPackage.toValue (item : WorkPackage) : Value :=
  .object (Field.all.map fun field => (field.name, (field.cell item).toValue))

end WorkQuery
