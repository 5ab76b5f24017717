import Rowgraph.Entity
import Rowgraph.Unicode.Blank

/-!
# Locators

The server and the database that a connection string names, and the connections of a program by name.
Names of servers and databases are compared without regard to the case of ASCII letters.
-/

set_option autoImplicit false

namespace Rowgraph

/-- Where a connection leads. -/
structure Locator where
  server : String
  database : Option String := none
  /-- The schema of tables that declare none, in references from another database. -/
  schema : Option String := none
  deriving DecidableEq

namespace Locator

/-- The text cut at its first `mark`, and the rest, if the mark occurs. -/
def cutAt? (mark : Char) (cs : List Char) : Option (List Char × List Char) :=
  match cs.dropWhile fun c => c != mark with
  | [] => none
  | _ :: rest => some (cs.takeWhile fun c => c != mark, rest)

/-- The pieces of a text between marks. -/
def pieces (mark : Char) : List Char → List (List Char)
  | [] => [[]]
  | c :: rest =>
    if c = mark then [] :: pieces mark rest
    else
      match pieces mark rest with
      | [] => [[c]]
      | piece :: more => (c :: piece) :: more

/-- The text in lower case, as far as it is ASCII. -/
def lower (cs : List Char) : List Char := cs.map Char.toLower

/-- The host without the name of the protocol. -/
def withoutProtocol : List Char → List Char
  | 't' :: 'c' :: 'p' :: ':' :: rest => rest
  | 'T' :: 'C' :: 'P' :: ':' :: rest => rest
  | cs => cs

/-- The host without a number behind its last colon. -/
def withoutNumber (cs : List Char) : List Char :=
  match cutAt? ':' cs.reverse with
  | some (number, host) => if number.all Char.isDigit then host.reverse else cs
  | none => cs

/-- The host that the value of a host pair names. An instance behind a backslash belongs to it. -/
def host (value : List Char) : List Char :=
  Unicode.trim (withoutNumber ((withoutProtocol value).takeWhile fun c => c != ','))

/-- The keys of the host pair. -/
def hostKeys : List (List Char) :=
  ["server".toList, "data source".toList, "address".toList, "addr".toList]

/-- The keys of the database pair. -/
def databaseKeys : List (List Char) := ["database".toList, "initial catalog".toList]

/-- The key and the value of a pair, less the blanks around them. -/
def pair? (piece : List Char) : Option (List Char × List Char) :=
  (cutAt? '=' piece).map fun p => (lower (Unicode.trim p.1), Unicode.trim p.2)

/-- The value of the last pair with one of the keys. -/
def lastValue? (keys : List (List Char)) (pairs : List (List Char × List Char)) :
    Option (List Char) :=
  ((pairs.filter fun p => keys.contains p.1).getLast?).map (·.2)

/-- Why a connection string names no place. -/
def noServer : String := "no server specified"

/-- Reads a connection string. Where a key is repeated the last pair counts. -/
def parse (text : String) : Except String Locator :=
  let pairs := (pieces ';' text.toList).filterMap pair?
  match (lastValue? hostKeys pairs).map host with
  | none => .error noServer
  | some [] => .error noServer
  | some server =>
    let database := (lastValue? databaseKeys pairs).filter fun d => !d.isEmpty
    .ok ⟨String.ofList server, database.map String.ofList, none⟩

/-- Are two names equal but for the case of ASCII letters? -/
def sameName (a b : String) : Bool := lower a.toList == lower b.toList

/-- Is it the same server? -/
def sameServer (a b : Locator) : Bool := sameName a.server b.server

/-- Is it the same database, or none on both sides? -/
def sameDatabase (a b : Locator) : Bool :=
  match a.database, b.database with
  | some x, some y => sameName x y
  | none, none => true
  | _, _ => false

end Locator

/-- The connections of a program, by name. -/
structure Registry where
  entries : List (String × Locator) := []
  deriving DecidableEq

namespace Registry

/-- The registry with a connection added, in place of one of the same name. -/
def insert (r : Registry) (name : String) (l : Locator) : Registry :=
  ⟨r.entries.filter (fun e => e.1 != name) ++ [(name, l)]⟩

/-- Does the registry hold nothing? -/
def isEmpty (r : Registry) : Bool := r.entries.isEmpty

/-- The connection of a name. -/
def find? (r : Registry) (name : String) : Option Locator := r.entries.lookup name

/-- The connection of an entity. An entity that names none has the only one there is. -/
def resolve (r : Registry) (e : Entity) : Except Error Locator :=
  match e.connection with
  | some name =>
    match r.find? name with
    | some l => .ok l
    | none => .error (.connectionNotDeclared name)
  | none =>
    match r.entries with
    | [] => .error (.connectionNotDeclared e.name)
    | [(_, only)] => .ok only
    | _ => .error (.ambiguousConnection e.name)

end Registry

end Rowgraph
