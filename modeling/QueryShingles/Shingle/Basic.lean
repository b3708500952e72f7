import QueryShingles.Query.Basic

/-!
Shingles of neighbouring places. A shingle glues a term of one place to a same-field term of the
next, so that a document that writes the two words as one can be found; it is added to both places.
Only disjunction max groups take part: any other clause keeps its neighbours apart.
-/

set_option autoImplicit false

namespace QueryShingles

structure Shingle where
  left : DisjunctionMaxId
  right : DisjunctionMaxId
  field : Option String
  value : String
deriving DecidableEq, Repr

structure Shingling where
  acceptGenerated : Bool
deriving DecidableEq, Repr

namespace Shingling

def name : String := "shingle"

def isSource (shingling : Shingling) (term : Term) : Bool :=
  !term.generated || shingling.acceptGenerated

def sources (shingling : Shingling) (query : Query) (place : DisjunctionMaxId) : List Term :=
  (query.termsOf place).filter shingling.isSource

/-- The shingles of two places, the left term changing slowest. Each is meant for the groups that its terms name as
their parents. -/
def shinglesOf (shingling : Shingling) (query : Query) (left right : DisjunctionMaxId) :
    List Shingle :=
  (shingling.sources query left).flatMap fun l =>
    ((shingling.sources query right).filter l.sameField).map fun r =>
      { left := l.parent, right := r.parent, field := l.field, value := l.value ++ r.value }

def places (query : Query) : List (Option DisjunctionMaxId) :=
  query.clauses.map fun id => (query.disjunctionMax? id).map fun _ => ⟨id⟩

def shinglesBetween (shingling : Shingling) (query : Query) :
    Option DisjunctionMaxId → Option DisjunctionMaxId → List Shingle
  | some left, some right => shingling.shinglesOf query left right
  | _, _ => []

def shingles (shingling : Shingling) (query : Query) : List Shingle :=
  let all := places query
  (all.zip all.tail).flatMap fun pair => shingling.shinglesBetween query pair.1 pair.2

def addShingle (query : Query) (shingle : Shingle) : Query :=
  let first := (query.attachTerm shingle.left shingle.field shingle.value true).1
  (first.attachTerm shingle.right shingle.field shingle.value true).1

/-- One pass. Shingles are collected before any is added, so none of a pass is a source in it. -/
def run (shingling : Shingling) (query : Query) : Query :=
  if query.clauses.length < 2 then query
  else (shingling.shingles query).foldl addShingle query

def shinglesOfGuarded (shingling : Shingling) (query : Query) (left right : DisjunctionMaxId) :
    Except HandleFault (List Shingle) := do
  let words ← query.terms left
  let found ← (words.filter shingling.isSource).mapM fun l => do
    let others ← query.terms right
    pure (((others.filter shingling.isSource).filter l.sameField).map fun r =>
      { left := l.parent, right := r.parent, field := l.field, value := l.value ++ r.value : Shingle })
  pure found.flatten

def shinglesBetweenGuarded (shingling : Shingling) (query : Query) :
    Option DisjunctionMaxId → Option DisjunctionMaxId → Except HandleFault (List Shingle)
  | some left, some right => shingling.shinglesOfGuarded query left right
  | _, _ => .ok []

def placesGuarded (query : Query) : Except HandleFault (List (Option DisjunctionMaxId)) := do
  let group ← query.boolean Query.root
  group.clauses.mapM fun id => do
    let node ← query.clause id
    pure (node.asDisjunctionMax?.map fun _ => ⟨id⟩)

def addShingleGuarded (query : Query) (shingle : Shingle) : Except HandleFault Query := do
  let first ← query.addTerm shingle.left shingle.field shingle.value true
  let second ← first.1.addTerm shingle.right shingle.field shingle.value true
  pure second.1

/-- One pass with every node looked up as the kind of node that it is taken for. -/
def runGuarded (shingling : Shingling) (query : Query) : Except HandleFault Query := do
  let group ← query.boolean Query.root
  if group.clauses.length < 2 then pure query
  else
    let places ← placesGuarded query
    let found ← (places.zip places.tail).mapM fun pair =>
      shingling.shinglesBetweenGuarded query pair.1 pair.2
    found.flatten.foldlM addShingleGuarded query

end Shingling

end QueryShingles
