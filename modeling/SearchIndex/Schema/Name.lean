import SearchIndex.Error
import SearchIndex.Text.Lowercase

/-!
Names: of remote domains, which consist of lower-case letters, digits and hyphens, and of the field
that identifies a record in an index.
-/

namespace SearchIndex

/-- Lower-case letters, digits and the hyphen. -/
def isNameChar (c : Char) : Bool := c.isLower || c.isDigit || c = '-'

/-- Whether a letter or digit is there. -/
def hasAlphanum (s : String) : Bool := s.toList.any Char.isAlphanum

/-- The text in lower case without the blanks around it, every character that a name cannot hold
replaced by a hyphen. -/
def hyphenated (s : String) : String :=
  .ofList ((Text.lower (Text.trim s)).toList.map fun c => if isNameChar c then c else '-')

/-- The domain name that a text stands for; a letter or digit has to be in it. -/
def normalizeName (s : String) : Except SearchError String :=
  if hasAlphanum (hyphenated s) then .ok (hyphenated s) else .error (.invalidDomainName s)

/-- The domain of an owner's index, with a qualifier if it has several. -/
def domainName (domainPrefix owner : String) (qualifier : Option String) : Except SearchError String :=
  normalizeName (domainPrefix ++ match qualifier with
    | some q => owner ++ "-" ++ q
    | none => owner)

/-- The field that holds the record's own id in the indexes of an owner. -/
def identityField (owner : String) : String :=
  .ofList ((Text.lower (Text.trim owner)).toList.map fun c => if c.isAlphanum then c else '_') ++ "_id"

end SearchIndex
