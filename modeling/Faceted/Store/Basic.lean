import Faceted.Store.Index
import Faceted.Store.Vocabulary

/-!
# The store of statements

A statement says that a subject has a value, the object, under a property. The store keeps its
statements in two indexes, from subjects to objects and back, together with the known items, types
and properties.

Adding or removing a statement changes both indexes alike (`objects_addStatement`,
`subjects_addStatement`), makes the property known, and drops the index over its values.
-/

namespace Faceted

/-! ## 1. Events -/

/-- What a store tells about bulk changes. -/
inductive StoreEvent where
  | beforeLoadingTypes
  | afterLoadingTypes
  | beforeLoadingProperties
  | afterLoadingProperties
  | beforeLoadingItems
  | afterLoadingItems
  | beforeRemovingAllStatements
  | afterRemovingAllStatements
  deriving DecidableEq, Repr

/-! ## 2. The store -/

structure Store where
  types : KeyMap ItemType
  properties : KeyMap Property
  /-- Objects by subject and property. -/
  forward : Index
  /-- Subjects by object and property. -/
  backward : Index
  items : KeySet
  /-- The ids of all properties, once asked for and until the properties change. -/
  propertyList : Option (List String)
  /-- How many items have been named by counting. -/
  anonymous : Nat
  /-- The moment at which the operation under way takes place, in milliseconds. Operations leave it as
      it is; between them the clock moves on (`Store.atMoment`). -/
  present : Int

namespace Store

/-- The type of items that have no other. -/
def itemType : String := "Item"

/-- The properties that every store knows. -/
def builtIns : List Property :=
  [.builtIn "label" "http://www.w3.org/2000/01/rdf-schema#label" .text "label" "labels",
    .builtIn "type" "http://www.w3.org/1999/02/22-rdf-syntax-ns#type" .text "type" "types",
    .builtIn "uri" "http://simile.mit.edu/2006/11/exhibit#uri" .url "URI" "URIs"]

/-- The present moment of a store that has been told of no other. -/
def startOfClock : Int := 1767225600000

/-- The store without statements and items. -/
def empty : Store where
  types := KeyMap.ofList
    [(itemType, ⟨itemType,
      KeyMap.ofList [("label", .string "Item"), ("pluralLabel", .string "Items")]⟩)]
  properties := KeyMap.ofList (builtIns.map fun p => (p.id, p))
  forward := ∅
  backward := ∅
  items := ∅
  propertyList := none
  anonymous := 0
  present := startOfClock

instance : Inhabited Store := ⟨empty⟩

/-- The store at another moment. -/
def atMoment (s : Store) (moment : Int) : Store := { s with present := moment }

/-! ## 3. Looking up -/

/-- The objects of a subject and a property, in the order of arrival. -/
def objectList (s : Store) (subject property : String) : List String :=
  s.forward.listed subject property

/-- The subjects of an object and a property, in the order of arrival. -/
def subjectList (s : Store) (object property : String) : List String :=
  s.backward.listed object property

def objects (s : Store) (subject property : String) (into : KeySet) (filter : Option KeySet) :
    KeySet :=
  s.forward.collect subject property into filter

def subjects (s : Store) (object property : String) (into : KeySet) (filter : Option KeySet) :
    KeySet :=
  s.backward.collect object property into filter

def objectsUnion (s : Store) (subjects : KeySet) (property : String) (into : KeySet)
    (filter : Option KeySet) : KeySet :=
  s.forward.collectUnion subjects property into filter

def subjectsUnion (s : Store) (objects : KeySet) (property : String) (into : KeySet)
    (filter : Option KeySet) : KeySet :=
  s.backward.collectUnion objects property into filter

/-- The oldest object of a subject and a property. -/
def object? (s : Store) (subject property : String) : Option String :=
  (s.objectList subject property).head?

/-- The oldest subject of an object and a property. -/
def subject? (s : Store) (object property : String) : Option String :=
  (s.subjectList object property).head?

def countObjects (s : Store) (subject property : String) (filter : Option KeySet) : Nat :=
  s.forward.countListed subject property filter

def countSubjects (s : Store) (object property : String) (filter : Option KeySet) : Nat :=
  s.backward.countListed object property filter

def countObjectsUnion (s : Store) (subjects : KeySet) (property : String)
    (filter : Option KeySet) : Nat :=
  s.forward.countUnion subjects property filter

def countSubjectsUnion (s : Store) (objects : KeySet) (property : String)
    (filter : Option KeySet) : Nat :=
  s.backward.countUnion objects property filter

/-- The properties of which the text is a subject, in ascending order. -/
def forwardProperties (s : Store) (subject : String) : List String := s.forward.secondKeys subject

/-- The properties of which the text is an object, in ascending order. -/
def backwardProperties (s : Store) (object : String) : List String := s.backward.secondKeys object

/-- The types of the items. -/
def typeIds (s : Store) (items : KeySet) : KeySet := s.objectsUnion items "type" ∅ none

/-- The type of a property's values; an unknown property has texts. -/
def valueTypeOf (s : Store) (property : String) : ValueType :=
  match s.properties.get? property with
  | some p => p.valueType
  | none => .text

/-- The ids of all properties in ascending order; the store remembers them. -/
def allProperties (s : Store) : List String × Store :=
  match s.propertyList with
  | some ids => (ids, s)
  | none => (s.properties.keys, { s with propertyList := some s.properties.keys })

/-! ## 4. Making names known -/

/-- Makes the property known. -/
def ensureProperty (s : Store) (property base : String) : Store :=
  if s.properties.contains property then s
  else
    { s with
      properties := s.properties.insert property (.ofId base property)
      propertyList := none }

/-- Makes the type known. -/
def ensureType (s : Store) (type base : String) : Store :=
  if s.types.contains type then s
  else { s with types := s.types.insert type (ItemType.withDefaults base ⟨type, ∅⟩) }

/-- Drops the index over the property's values. -/
def invalidate (s : Store) (property : String) : Store :=
  { s with properties := s.properties.modify property Property.withoutIndex }

/-! ## 5. Statements -/

/-- Enters the statement into both indexes. -/
def enter (s : Store) (subject property object : String) : Store :=
  { s with
    forward := s.forward.put subject property object
    backward := s.backward.put object property subject }

/-- Adds a statement. A property seen for the first time gets a URI without base. -/
def addStatement (s : Store) (subject property object : String) : Store :=
  ((s.enter subject property object).ensureProperty property "").invalidate property

/-- Is the statement in either index? -/
def holds (s : Store) (subject property object : String) : Bool :=
  decide (object ∈ s.objectList subject property) ||
    decide (subject ∈ s.subjectList object property)

/-- Removes a statement, if it is there, and says whether it was. -/
def removeStatement (s : Store) (subject property object : String) : Bool × Store :=
  if s.holds subject property object then
    (true,
      invalidate
        { s with
          forward := s.forward.remove subject property object
          backward := s.backward.remove object property subject }
        property)
  else (false, s)

/-- Removes several statements and says whether any was there. -/
def removeStatements (s : Store) (statements : List (String × String × String)) : Bool × Store :=
  statements.foldl
    (fun (removed, s) (subject, property, object) =>
      let (here, s) := s.removeStatement subject property object
      (removed || here, s))
    (false, s)

/-- Removes all objects of a subject and a property. -/
def removeObjects (s : Store) (subject property : String) : Bool × Store :=
  s.removeStatements ((s.objectList subject property).map fun object => (subject, property, object))

/-- Removes all subjects of an object and a property. -/
def removeSubjects (s : Store) (object property : String) : Bool × Store :=
  s.removeStatements ((s.subjectList object property).map fun subject => (subject, property, object))

/-- Removes every statement and every item. Types and properties stay. -/
def removeAll (s : Store) : Store × List StoreEvent :=
  ({ s with
      forward := ∅
      backward := ∅
      items := ∅
      properties := s.properties.mapValues Property.withoutIndex
      propertyList := none },
    [.beforeRemovingAllStatements, .afterRemovingAllStatements])

@[simp] theorem invalidate_objectList (s : Store) (p x y : String) :
    (s.invalidate p).objectList x y = s.objectList x y := rfl

@[simp] theorem invalidate_subjectList (s : Store) (p x y : String) :
    (s.invalidate p).subjectList x y = s.subjectList x y := rfl

@[simp] theorem ensureProperty_objectList (s : Store) (p base x y : String) :
    (s.ensureProperty p base).objectList x y = s.objectList x y := by
  unfold ensureProperty
  split <;> rfl

@[simp] theorem ensureProperty_subjectList (s : Store) (p base x y : String) :
    (s.ensureProperty p base).subjectList x y = s.subjectList x y := by
  unfold ensureProperty
  split <;> rfl

/-- A statement is added to the objects of its subject and property. -/
theorem objects_addStatement (s : Store) (subject property object x y : String) :
    (s.addStatement subject property object).objectList x y =
      if x = subject ∧ y = property ∧ ¬ object ∈ s.objectList subject property then
        s.objectList subject property ++ [object]
      else s.objectList x y := by
  simp only [addStatement, invalidate_objectList, ensureProperty_objectList]
  exact Index.listed_put s.forward subject property object x y

/-- A statement is added to the subjects of its object and property. -/
theorem subjects_addStatement (s : Store) (subject property object x y : String) :
    (s.addStatement subject property object).subjectList x y =
      if x = object ∧ y = property ∧ ¬ subject ∈ s.subjectList object property then
        s.subjectList object property ++ [subject]
      else s.subjectList x y := by
  simp only [addStatement, invalidate_subjectList, ensureProperty_subjectList]
  exact Index.listed_put s.backward object property subject x y

end Store

end Faceted
