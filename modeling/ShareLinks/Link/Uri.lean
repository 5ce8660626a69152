import ShareLinks.Text.Percent
import ShareLinks.Url

/-!
Links in the form of a URI, as `_build_uri` of `xraylink.inbound` writes them: scheme, credential,
host and port, query and remark. Host, port and query are written by a URL library. Credential and
remark keep some characters and escape all others, so that neither holds a character that ends it.
-/

namespace ShareLinks.Link

/-- Characters of a credential that are not escaped. -/
def isCredentialChar (c : Char) : Bool :=
  Text.isUnreserved c || "$&+,;=".toList.contains c

def isRemarkChar (c : Char) : Bool :=
  Text.isUnreserved c || "!$&()*+,/:;=?@".toList.contains c

/-- The parts of a URI before they are escaped. -/
structure UriParts where
  scheme : String
  credential : String
  host : String
  port : Int
  query : List (String × String)
  remark : String

namespace UriParts

/-- A remark behind its sign; nothing for one that is empty. -/
def remarkText (remark : String) : List Char :=
  if remark.isEmpty then [] else '#' :: Text.percentEncode isRemarkChar remark.toList

def queryText (query : List Char) : List Char :=
  if query.isEmpty then [] else '?' :: query

def render (urls : UrlLibrary) (u : UriParts) : Except Fault String := do
  let url ← urls.make u.scheme u.host u.port u.query
  pure <| String.ofList <|
    u.scheme.toList ++ "://".toList ++
      Text.percentEncode isCredentialChar u.credential.toList ++ '@' :: url.server ++
      queryText url.query ++ remarkText u.remark

end UriParts
end ShareLinks.Link
