import BingePodcast.Native.Decode
import Mathlib.Data.List.Nodup

/-!
# Collections and queries

What `FirebaseService` relies on in Firestore: the paths `Firestore.collection` accepts
(`FIRFirestore.mm`, `resource_path.cc` and `collection_reference.cc` of the vendored
pod), and the documents a query returns from a collection that does not change.
-/

namespace BingePodcast

/-- A collection: its documents in the order in which queries list them. Two documents
    of one collection have different IDs. -/
structure Collection where
  documents : List DocumentSnapshot
  nodup : (documents.map DocumentSnapshot.documentID).Nodup

/-- The collection of every name. -/
def Collections := String → Collection

/-- An `Error` of Firestore, which the handlers only pass on. -/
structure FirestoreError where
  localizedDescription : String
deriving DecidableEq, Repr

/-- The segments of a path: `/` separates them, empty ones are skipped. -/
def pathSegments (path : String) : List (List Char) :=
  (path.toList.splitOn '/').filter (!·.isEmpty)

/-- Whether two slashes follow each other. -/
def hasDoubleSlash : List Char → Bool
  | '/' :: '/' :: _ => true
  | _ :: rest => hasDoubleSlash rest
  | [] => false

/-- The paths `collection(path)` accepts: not empty, no `//`, an odd number of segments. -/
def isCollectionPath (path : String) : Bool :=
  !path.toList.isEmpty && !hasDoubleSlash path.toList && (pathSegments path).length % 2 == 1

theorem isCollectionPath_empty : isCollectionPath "" = false := by decide

/-- A query: a collection, `start(afterDocument:)` and `limit(to:)`. -/
structure Query where
  collection : String
  startAfter : Option DocumentSnapshot
  limit : Option Nat
deriving DecidableEq, Repr

/-- The documents a query returns. -/
def Query.documents (collections : Collections) (query : Query) : List DocumentSnapshot :=
  let all := (collections query.collection).documents
  let rest := match query.startAfter with
    | none => all
    -- the cursor is exclusive, and a document is found again by its ID
    | some last => all.after (fun document => document.documentID == last.documentID)
  match query.limit with
  | none => rest
  | some limit => rest.take limit

/-- The answer to a query: a snapshot of its documents, or an error and no snapshot. -/
inductive Response where
  | snapshot (documents : List DocumentSnapshot)
  | error (err : FirestoreError)
deriving DecidableEq, Repr

/-- The first argument of a query's completion. -/
def Response.querySnapshot : Response → Option (List DocumentSnapshot)
  | .snapshot documents => some documents
  | .error _ => none

/-- The second argument of a query's completion. -/
def Response.err : Response → Option FirestoreError
  | .snapshot _ => none
  | .error err => some err

/-- Firestore may answer a query with its documents or with an error. -/
def Collections.Answers (collections : Collections) (query : Query) : Response → Prop
  | .snapshot documents => documents = query.documents collections
  | .error _ => True

instance (collections : Collections) (query : Query) (response : Response) :
    Decidable (collections.Answers query response) :=
  match response with
  | .snapshot documents => inferInstanceAs (Decidable (documents = query.documents collections))
  | .error _ => inferInstanceAs (Decidable True)

end BingePodcast
