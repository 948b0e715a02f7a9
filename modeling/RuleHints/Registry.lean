import RuleHints.Text.Basic

/-!
# The registry of protocols

The protocols that can be offered, in the order in which an empty word lists them. A registry
starts from the built-in list or from one of the user's, and the names of plugins are added to it.
-/

namespace RuleHints

def protocolMark : Text := "://"

structure Registry where
  protocols : List Text
  deriving DecidableEq, Repr

namespace Registry

def builtinNames : List String := [
  "host", "xhost", "proxy", "xproxy", "http-proxy", "xhttp-proxy",
  "https-proxy", "xhttps-proxy", "socks", "xsocks", "pac", "weinre", "log",
  "filter", "ignore", "enable", "disable", "delete", "plugin", "pipe",
  "sniCallback", "rulesFile", "resScript", "reqScript", "file", "xfile",
  "tpl", "xtpl", "rawfile", "xrawfile", "redirect", "statusCode",
  "replaceStatus", "custom", "dispatch", "urlParams", "params", "pathReplace",
  "method", "auth", "ua", "referer", "forwardedFor", "responseFor", "cache",
  "attachment", "location", "etag", "headerReplace", "reqHeaders",
  "resHeaders", "trailers", "reqDelay", "resDelay", "reqSpeed", "resSpeed",
  "reqType", "resType", "reqCharset", "resCharset", "reqCookies", "resCookies",
  "reqCors", "resCors", "reqBody", "resBody", "reqPrepend", "resPrepend",
  "reqAppend", "resAppend", "reqReplace", "resReplace", "reqMerge", "resMerge",
  "reqWrite", "resWrite", "reqWriteRaw", "resWriteRaw", "htmlAppend",
  "htmlPrepend", "htmlBody", "jsAppend", "jsPrepend", "jsBody", "cssAppend",
  "cssPrepend", "cssBody", "html", "js", "css", "style", "cipher",
  "lineProps"]

def builtin : Registry := ⟨builtinNames.map fun name => name.toList ++ protocolMark⟩

def contains (registry : Registry) (protocol : Text) : Bool := registry.protocols.contains protocol

/-- Adds the protocol of a plugin at the end, unless it is there. -/
def addPlugin (registry : Registry) (name : Text) : Registry :=
  let protocol := name ++ protocolMark
  if registry.contains protocol then registry else ⟨registry.protocols ++ [protocol]⟩

def addPlugins (registry : Registry) (names : List Text) : Registry :=
  names.foldl addPlugin registry

/-- `t`, written backwards, without the marks it begins with. -/
def dropMarks : Text → Text
  | '/' :: '/' :: ':' :: t => dropMarks t
  | t => t

def keywords (registry : Registry) : List Text :=
  registry.protocols.map fun protocol => (dropMarks protocol.reverse).reverse

end Registry

end RuleHints
