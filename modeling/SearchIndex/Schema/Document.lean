import SearchIndex.Digest.Md5
import SearchIndex.Schema.FieldValue

/-!
Operations on the documents of an index, as they are posted to its document endpoint. The service
takes an operation only if its version is higher than the document's last one.
-/

namespace SearchIndex

inductive DocumentOperation where
  | add (id : String) (version : Nat) (lang : String) (fields : List (String × FieldValue))
  | delete (id : String) (version : Nat)
  deriving Repr, Inhabited

/-- Documents are named by the digest of the record's id: whatever the id is, the name is short
and made of characters that the service accepts. -/
def documentId (recordId : String) : String := Digest.md5 recordId

namespace DocumentOperation

def id : DocumentOperation → String
  | add id _ _ _ => id
  | delete id _ => id

def version : DocumentOperation → Nat
  | add _ version _ _ => version
  | delete _ version => version

def isDelete : DocumentOperation → Bool
  | add .. => false
  | delete .. => true

def toJson : DocumentOperation → Json
  | add id version lang fields => .object [("type", .string "add"), ("id", .string id),
      ("version", .natural version), ("lang", .string lang),
      ("fields", .object (fields.map fun e => (e.1, e.2.toJson)))]
  | delete id version => .object [("type", .string "delete"), ("id", .string id),
      ("version", .natural version)]

end DocumentOperation

end SearchIndex
