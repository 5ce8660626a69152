import ShareLinks.Proofs.Link.Redirect

/-!
# Endpoints in front of a server

A link through several endpoints is the links through each of them alone, one below the other; it
fails where one of them fails, and as the first of these does. What the endpoints replace, the
address and the port of the server, has no part in it. An endpoint that changes nothing leads to
the line that the server itself would have at its place.
-/

namespace ShareLinks

/-- The inbound with some endpoints in front of it in place of its own. -/
def Inbound.behind (i : Inbound) (es : List Endpoint) : Inbound :=
  { i with stream := { i.stream with endpoints := es } }

namespace Link

variable {p : Protocol} {i : Inbound} {c : Client} {choice : Option Reality.Choice}
  {manner : Manner}

/-- A line does not depend on what else there is in front of the server. -/
theorem line_behind (es : List Endpoint) :
    line p (i.behind es) c choice manner = line p i c choice manner := by
  funext e
  cases p <;> rfl

/-- A line to an endpoint does not depend on the port of the server. -/
theorem line_port (port : Int) :
    line p { i with port } c choice manner = line p i c choice manner := by
  funext e
  cases p <;> rfl

theorem lines_of_endpoints (fronted : i.stream.endpoints ≠ []) (address : String) :
    lines p i c choice manner address = i.stream.endpoints.mapM (line p i c choice manner) := by
  have some : i.stream.endpoints.isEmpty = false := List.isEmpty_eq_false_iff.mpr fronted
  rw [lines, targets, some, if_neg Bool.false_ne_true]

theorem lines_behind_singleton (e : Endpoint) (address : String) :
    lines p (i.behind [e]) c choice manner address =
      (line p i c choice manner e).map fun text => [text] := by
  rw [lines_of_endpoints (List.cons_ne_nil e []), line_behind]
  show [e].mapM _ = _
  rw [List.mapM_cons, List.mapM_nil]
  rfl

theorem lines_behind_nil (address : String) :
    lines p (i.behind []) c choice manner address =
      (directLine p i c choice manner address i.port).map fun text => [text] := by
  have server : targets (i.behind []) address = [{ dest := address, port := i.port }] := rfl
  rw [lines, server, line_behind, List.mapM_cons, List.mapM_nil, line_same]
  rfl

end Link

namespace Inbound

open Link

variable {i : Inbound} {p : Protocol} {c : Client} {manner : Link.Manner}
  {address email : String} {source : Source}

theorem link_of_single_line (protocol : i.protocol? = some p)
    (found : i.settings.find? email = some c) {written : Except Fault String}
    (single : lines p i c (choose p i.stream source).1 manner address =
      written.map fun text => [text]) :
    i.link manner address email source = (written, (choose p i.stream source).2) := by
  rw [link_of_client protocol found, single]
  cases written <;> simp [Except.map]

theorem link_behind_singleton (protocol : i.protocol? = some p)
    (found : i.settings.find? email = some c) (e : Endpoint) :
    (i.behind [e]).link manner address email source =
      (line p i c (choose p i.stream source).1 manner e, (choose p i.stream source).2) :=
  link_of_single_line (i := i.behind [e]) protocol found (lines_behind_singleton e address)

theorem link_behind_nil (protocol : i.protocol? = some p)
    (found : i.settings.find? email = some c) :
    (i.behind []).link manner address email source =
      (directLine p i c (choose p i.stream source).1 manner address i.port,
        (choose p i.stream source).2) :=
  link_of_single_line (i := i.behind []) protocol found (lines_behind_nil address)

/-- A client with an email is found by it, or another one before it is. -/
theorem exists_find?_of_mem (client : ∃ c ∈ i.settings.clients, c.email = email) :
    ∃ c, i.settings.find? email = some c := by
  obtain ⟨c, mem, same⟩ := client
  have found : (i.settings.clients.find? fun d => d.email == email).isSome = true :=
    List.find?_isSome.mpr ⟨c, mem, beq_iff_eq.mpr same⟩
  exact Option.isSome_iff_exists.mp found

/-- The link to a client through some endpoints is there where the links through each of them are,
and then it is these, one below the other; otherwise it fails as the first of them that fails. It
leaves the random source as each of them does, and neither the address nor the port of the server
is of account. The link through an endpoint that keeps the security and adds no remark is that of
a server at its place. The one is a line made from what would have been written for the server, the
other is the line straight to a server. -/
theorem link_through_endpoints (protocol : i.protocol? = some p)
    (client : ∃ c ∈ i.settings.clients, c.email = email) (fronted : i.stream.endpoints ≠ []) :
    (∀ text, (i.link manner address email source).1 = .ok text ↔
      ∃ lines, text = String.intercalate "\n" lines ∧
        List.Forall₂ (fun e line => ((i.behind [e]).link manner address email source).1 = .ok line)
          i.stream.endpoints lines) ∧
    (∀ fault, (i.link manner address email source).1 = .error fault ↔
      ∃ before e after, i.stream.endpoints = before ++ e :: after ∧
        (∀ d ∈ before, ∃ line, ((i.behind [d]).link manner address email source).1 = .ok line) ∧
        ((i.behind [e]).link manner address email source).1 = .error fault) ∧
    (∀ e ∈ i.stream.endpoints, ((i.behind [e]).link manner address email source).2 =
      (i.link manner address email source).2) ∧
    (∀ elsewhere port, { i with port }.link manner elsewhere email source =
      i.link manner address email source) ∧
    (∀ place port,
      (i.behind [{ forceTls := "same", dest := place, port, remark := "" }]).link manner address
          email source =
        { i.behind [] with port }.link manner place email source) ∧
    (∀ c, i.settings.find? email = some c →
      (∀ e, ((i.behind [e]).link manner address email source).1 =
        relayedLine p i c (choose p i.stream source).1 manner address e) ∧
      ∀ place port, ({ i.behind [] with port }.link manner place email source).1 =
        directLine p i c (choose p i.stream source).1 manner place port) := by
  obtain ⟨c, found⟩ := exists_find?_of_mem client
  have alone (e : Endpoint) : (i.behind [e]).link manner address email source = _ :=
    link_behind_singleton protocol found e
  have whole : ∀ elsewhere, i.link manner elsewhere email source =
      ((i.stream.endpoints.mapM (line p i c (choose p i.stream source).1 manner)).map
        (String.intercalate "\n"), (choose p i.stream source).2) := by
    intro elsewhere
    rw [link_of_client protocol found, lines_of_endpoints fronted]
  simp only [alone, whole]
  refine ⟨fun text => ?_, fun fault => ?_, fun _ _ => trivial, fun elsewhere port => ?_,
    fun place port => ?_, fun d same => ⟨fun e => ?_, fun place port => ?_⟩⟩
  · simp only [map_eq_ok_iff, mapM_eq_ok_iff]
    constructor
    · rintro ⟨written, steps, rfl⟩
      exact ⟨written, rfl, steps⟩
    · rintro ⟨written, rfl, steps⟩
      exact ⟨written, steps, rfl⟩
  · rw [map_eq_error_iff, mapM_eq_error_iff]
  · rw [link_of_client (i := { i with port }) protocol found,
      lines_of_endpoints (i := { i with port }) fronted, line_port]
  · rw [line_same]
    exact (link_behind_nil (i := { i with port }) protocol found).symm
  · obtain rfl : c = d := Option.some.inj (found.symm.trans same)
    exact line_eq_relayedLine address e
  · obtain rfl : c = d := Option.some.inj (found.symm.trans same)
    exact congrArg Prod.fst (link_behind_nil (i := { i with port }) protocol found)

/-- An endpoint that turns the security of the stream off. -/
def plainEndpoint : Endpoint :=
  { forceTls := "none", dest := "cdn.example", port := 80, remark := "cdn" }

/-- An endpoint that looks like an address and is none. -/
def refusedEndpoint : Endpoint :=
  { dest := "1.2.3.256", port := 8443 }

/-- An inbound behind two endpoints, of which the second cannot be written. -/
def relayedInbound : Inbound :=
  { port := 443
    protocol := "trojan"
    settings := { clients := [{ email := "ada", password := "k1" }] }
    stream :=
      { network := "ws"
        security := "tls"
        tls := { serverName := some "tls.example" }
        endpoints := [plainEndpoint, refusedEndpoint] } }

/-- The link fails as the second endpoint does, and through the second endpoint alone it fails as
it would for a server at that place. -/
theorem fronted_link_fails_as_second :
    (∃ c ∈ relayedInbound.settings.clients, c.email = "ada") ∧
      relayedInbound.stream.endpoints ≠ [] ∧
      ((relayedInbound.behind [plainEndpoint]).link Link.plainManner "" "ada"
          (Source.ofWords [0])).1 =
        .ok "trojan://k1@cdn.example:80?type=ws&path=&host=&security=none#ada%20cdn" ∧
      (relayedInbound.link Link.plainManner "" "ada" (Source.ofWords [0])).1 =
        .error (.invalidIpv4 "1.2.3.256") ∧
      ({ relayedInbound.behind [] with port := 8443 }.link Link.plainManner "1.2.3.256" "ada"
          (Source.ofWords [0])).1 =
        .error (.invalidIpv4 "1.2.3.256") := by
  have client : ∃ c ∈ relayedInbound.settings.clients, c.email = "ada" :=
    ⟨_, List.mem_singleton.mpr rfl, rfl⟩
  have fronted : relayedInbound.stream.endpoints ≠ [] := List.cons_ne_nil _ _
  have first : ((relayedInbound.behind [plainEndpoint]).link Link.plainManner "" "ada"
      (Source.ofWords [0])).1 =
        .ok "trojan://k1@cdn.example:80?type=ws&path=&host=&security=none#ada%20cdn" := by
    decide +kernel
  have second : ((relayedInbound.behind [refusedEndpoint]).link Link.plainManner "" "ada"
      (Source.ofWords [0])).1 = .error (.invalidIpv4 "1.2.3.256") := by
    decide +kernel
  obtain ⟨-, fails, -, -, same, -⟩ := @link_through_endpoints relayedInbound .trojan
    Link.plainManner "" "ada" (Source.ofWords [0]) rfl client fronted
  refine ⟨client, fronted, first, (fails _).mpr ⟨[_], _, [], rfl, ?_, second⟩, ?_⟩
  · exact List.forall_mem_singleton.mpr ⟨_, first⟩
  · rw [← same]
    exact second

end Inbound
end ShareLinks
