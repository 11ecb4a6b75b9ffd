import SearchIndex.Query.Error
import SearchIndex.Query.FieldType

/-!
Why an operation on an index fails, and what is said about it.
-/

namespace SearchIndex

/-- A request that did not come through: the HTTP status, if there was one, and a message. -/
structure TransportError where
  status : Option Nat := none
  message : String
  deriving DecidableEq, Repr, Inhabited

/-- A remark of the service in a search response. -/
structure ServiceMessage where
  severity : String := ""
  code : String := ""
  message : String := ""
  deriving DecidableEq, Repr, Inhabited

/-- The two services of a remote domain. -/
inductive Channel where
  | search
  | document
  deriving DecidableEq, Repr, Inhabited

def Channel.name : Channel → String
  | search => "search"
  | document => "doc"

inductive SearchError where
  | invalidFieldType (text : String)
  | duplicateField (domain field : String)
  | unknownField (domain field : String)
  | invalidDomainName (text : String)
  | query (error : QueryError)
  /-- The query has been answered and cannot be changed any more. -/
  | alreadyMaterialized
  | domainNotFound (domain : String)
  | endpointUnavailable (domain : String) (channel : Channel)
  | warning (code message : String)
  /-- The body is no search response. -/
  | unreadableResponse
  /-- The response has no hits section; these are its messages. -/
  | missingHits (messages : List ServiceMessage)
  | transport (error : TransportError)
  | loader (text : String)
  deriving Repr, Inhabited

namespace TransportError

def text (e : TransportError) : String :=
  let suffix := match e.status with
    | some status => s!" (HTTP {status})"
    | none => ""
  s!"远程服务请求失败{suffix}: {e.message}"

end TransportError

namespace SearchError

def ofUnknownFieldType (e : UnknownFieldType) : SearchError := invalidFieldType e.text

def malformed (detail : String) : String := s!"响应格式错误，缺少 hits: {detail}"

def message : SearchError → String
  | invalidFieldType text => s!"无效的字段类型 '{text}'"
  | duplicateField domain field => s!"字段 {field} 已存在于索引 {domain}"
  | unknownField domain field => s!"索引 {domain} 中未定义字段 '{field}'"
  | invalidDomainName text => s!"无效的域名 '{text}'：只允许小写字母、数字和连字符，且不能为空"
  | query error => error.message
  | alreadyMaterialized => "查询已执行，不能再修改"
  | domainNotFound domain => s!"找不到域 '{domain}'，请检查名称和所在区域"
  | endpointUnavailable domain channel => s!"域 '{domain}' 的 {channel.name} 服务尚无可用 endpoint"
  | warning code message => s!"查询结果包含警告 {code}: {message}"
  | unreadableResponse => malformed ""
  | missingHits messages =>
    let texts := messages.map fun m => m.code ++ ": " ++ m.message
    malformed ("messages: [" ++ ", ".intercalate texts ++ "]")
  | transport error => error.text
  | loader text => s!"批量加载失败: {text}"

end SearchError

end SearchIndex
