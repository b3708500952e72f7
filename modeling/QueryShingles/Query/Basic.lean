import QueryShingles.Query.Clause

/-!
A query holds its nodes in one array. Adding a node never moves or removes another, so a position
stays good for the life of the query. A position may also come from a different query; the
operations that take one from outside say what is wrong with it instead of guessing.
-/

set_option autoImplicit false

namespace QueryShingles

inductive HandleFault where
  | outOfBounds (size index : Nat)
  | notBoolean (index : ClauseId)
  | notDisjunctionMax (index : ClauseId)
  | notTerm (index : ClauseId)
deriving DecidableEq, Repr

def HandleFault.message : HandleFault → String
  | .outOfBounds size index =>
      "index out of bounds: the len is " ++ toString size ++ " but the index is " ++ toString index
  | .notBoolean index => wrongKind index "a boolean query"
  | .notDisjunctionMax index => wrongKind index "a disjunction max query"
  | .notTerm index => wrongKind index "a term"
where
  wrongKind (index : ClauseId) (kind : String) : String :=
    "internal error: entered unreachable code: clause " ++ toString index ++ " is not " ++ kind

structure Query where
  nodes : Array Clause
deriving DecidableEq, Repr

namespace Query

def new (generated : Bool) : Query :=
  ⟨#[.boolean { parent := none, occur := .should, generated := generated, clauses := [] }]⟩

instance : Inhabited Query := ⟨new false⟩

def root : BooleanId := ⟨0⟩

def size (query : Query) : Nat := query.nodes.size

def clause? (query : Query) (id : ClauseId) : Option Clause := query.nodes[id]?

def boolean? (query : Query) (id : ClauseId) : Option BooleanQuery :=
  query.clause? id >>= Clause.asBoolean?

def disjunctionMax? (query : Query) (id : ClauseId) : Option DisjunctionMaxQuery :=
  query.clause? id >>= Clause.asDisjunctionMax?

def term? (query : Query) (id : ClauseId) : Option Term :=
  query.clause? id >>= Clause.asTerm?

def clause (query : Query) (id : ClauseId) : Except HandleFault Clause :=
  match query.clause? id with
  | some node => .ok node
  | none => .error (.outOfBounds query.size id)

def boolean (query : Query) (id : BooleanId) : Except HandleFault BooleanQuery :=
  match query.clause? id.index with
  | some (.boolean group) => .ok group
  | some _ => .error (.notBoolean id.index)
  | none => .error (.outOfBounds query.size id.index)

def disjunctionMax (query : Query) (id : DisjunctionMaxId) :
    Except HandleFault DisjunctionMaxQuery :=
  match query.clause? id.index with
  | some (.disjunctionMax group) => .ok group
  | some _ => .error (.notDisjunctionMax id.index)
  | none => .error (.outOfBounds query.size id.index)

def term (query : Query) (id : TermId) : Except HandleFault Term :=
  match query.clause? id.index with
  | some (.term word) => .ok word
  | some _ => .error (.notTerm id.index)
  | none => .error (.outOfBounds query.size id.index)

def childIds (query : Query) (id : ClauseId) : List ClauseId :=
  (query.clause? id).elim [] Clause.children

def clauses (query : Query) : List ClauseId := query.childIds root.index

def generated (query : Query) : Bool := (query.clause? root.index).elim false Clause.generated

def termsOf (query : Query) (id : DisjunctionMaxId) : List Term :=
  (query.childIds id.index).filterMap query.term?

def terms (query : Query) (id : DisjunctionMaxId) : Except HandleFault (List Term) :=
  (query.disjunctionMax id).map fun _ => query.termsOf id

def push (query : Query) (node : Clause) : Query := ⟨query.nodes.push node⟩

def adopt (query : Query) (parent child : ClauseId) : Query :=
  ⟨query.nodes.modify parent (Clause.adopt child)⟩

def attach (query : Query) (parent : ClauseId) (node : Clause) : Query :=
  (query.push node).adopt parent query.size

def attachDisjunctionMax (query : Query) (parent : BooleanId) (occur : Occur) (generated : Bool) :
    Query × DisjunctionMaxId :=
  (query.attach parent.index
    (.disjunctionMax { parent, occur, generated, clauses := [] }), ⟨query.size⟩)

def attachBoolean (query : Query) (parent : BooleanId) (occur : Occur) (generated : Bool) :
    Query × BooleanId :=
  (query.attach parent.index
    (.boolean { parent := some parent.index, occur, generated, clauses := [] }), ⟨query.size⟩)

def attachAlternative (query : Query) (parent : DisjunctionMaxId) (generated : Bool) :
    Query × BooleanId :=
  (query.attach parent.index
    (.boolean { parent := some parent.index, occur := .should, generated, clauses := [] }),
   ⟨query.size⟩)

def attachTerm (query : Query) (parent : DisjunctionMaxId) (field : Option String)
    (value : String) (generated : Bool) : Query × TermId :=
  (query.attach parent.index (.term { parent, field, value, generated }), ⟨query.size⟩)

def addToken (query : Query) (field : Option String) (value : String) (generated : Bool) :
    Query × DisjunctionMaxId :=
  let place := query.attachDisjunctionMax root .should generated
  ((place.1.attachTerm place.2 field value generated).1, place.2)

/-- Here and in the additions below the node is already counted when its parent is looked up, so a position just
past the end names the new node itself. -/
def addDisjunctionMax (query : Query) (parent : BooleanId) (occur : Occur) (generated : Bool) :
    Except HandleFault (Query × DisjunctionMaxId) :=
  let added := query.attachDisjunctionMax parent occur generated
  (added.1.boolean parent).map fun _ => added

def addBoolean (query : Query) (parent : BooleanId) (occur : Occur) (generated : Bool) :
    Except HandleFault (Query × BooleanId) :=
  let added := query.attachBoolean parent occur generated
  (added.1.boolean parent).map fun _ => added

def addAlternative (query : Query) (parent : DisjunctionMaxId) (generated : Bool) :
    Except HandleFault (Query × BooleanId) :=
  let added := query.attachAlternative parent generated
  (added.1.disjunctionMax parent).map fun _ => added

def addTerm (query : Query) (parent : DisjunctionMaxId) (field : Option String)
    (value : String) (generated : Bool) : Except HandleFault (Query × TermId) :=
  let added := query.attachTerm parent field value generated
  (added.1.disjunctionMax parent).map fun _ => added

def addUserTerm (query : Query) (parent : DisjunctionMaxId) (field : Option String)
    (value : String) : Except HandleFault (Query × TermId) :=
  query.addTerm parent field value false

def addTokenGuarded (query : Query) (field : Option String) (value : String) (generated : Bool) :
    Except HandleFault (Query × DisjunctionMaxId) := do
  let place ← query.addDisjunctionMax root .should generated
  let word ← place.1.addTerm place.2 field value generated
  pure (word.1, place.2)

end Query

end QueryShingles
