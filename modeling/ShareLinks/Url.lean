import ShareLinks.Fault

/-!
URLs, as the links use them. `_build_uri` of `xraylink.inbound` leaves host, port and query to
`httpx.URL(scheme=, host=, port=, params=)`, and takes `netloc` and `query` over as they are
written. The library is no part of this program: whatever makes links is given one.
-/

namespace ShareLinks

/-- The parts of a URL as they are written. The server is the host with the port. -/
structure Url where
  server : List Char
  query : List Char

structure UrlLibrary where
  /-- Makes the URL of a scheme, a host, a port and named parameters. -/
  make (scheme host : String) (port : Int) (params : List (String × String)) : Except Fault Url

end ShareLinks
