import Quadlink.Proofs.Client.Calls
import Quadlink.Proofs.ServerRoot

/-!
# The servers of a set

A set of endpoints has a list of servers, which logins go to. To list them is a projection: the root
of a root is itself (`IsObtained.serverRoot_serverRoot`), and so a list of servers is its own
(`serverRoots_serverRoots`). `server_roots_project` adds which servers are listed, in which order,
and what that means for logins.
-/

namespace Quadlink

open Url

/-! ## Roots of roots -/

namespace Endpoint

variable {endpoint : Endpoint}

/-- Nothing is left of `repositories` in a root. -/
theorem IsSettled.repositories_not_mem (h : endpoint.IsSettled) :
    repositoriesSegment ∉ endpoint.serverRoot.url.segments := by
  by_cases hmem : repositoriesSegment ∈ endpoint.url.segments
  · rw [h.serverRoot_of_mem hmem]
    intro hroot
    have hfront : ∀ name ∈ endpoint.frontNames, name ≠ repositoriesSegment := by
      intro name hname
      simpa using List.all_eq_true.mp List.all_takeWhile name hname
    rcases Path.mem_orRoot hroot with hempty | hname
    · exact absurd hempty (by decide)
    · split at hname
      · exact hfront _ (List.mem_of_mem_tail hname) rfl
      · exact hfront _ hname rfl
  · rwa [serverRoot_of_not_mem hmem]

theorem IsObtained.serverRoot_serverRoot (h : endpoint.IsObtained) :
    endpoint.serverRoot.serverRoot = endpoint.serverRoot :=
  serverRoot_of_not_mem h.isSettled.repositories_not_mem

end Endpoint

/-! ## Lists of roots -/

namespace EndpointSet

variable {known endpoints : List Endpoint} {set : EndpointSet}

theorem foldl_addNew_of_nodup (h : (known ++ endpoints).Nodup) :
    endpoints.foldl addNew known = known ++ endpoints := by
  induction endpoints generalizing known with
  | nil => simp
  | cons endpoint rest ih =>
      have hnew : endpoint ∉ known := fun hmem =>
        (List.nodup_append.mp h).2.2 endpoint hmem endpoint List.mem_cons_self rfl
      rw [List.foldl_cons, addNew, if_neg (by simpa using hnew), ih (by simpa using h),
        List.append_assoc, List.singleton_append]

/-- A list without repetitions stays as it is. -/
theorem distinct_of_nodup (h : endpoints.Nodup) : distinct endpoints = endpoints :=
  foldl_addNew_of_nodup (by simpa using h)

theorem eq_of_toList {other : EndpointSet} (h : set.toList = other.toList) : set = other := by
  obtain ⟨first, others⟩ := set
  obtain ⟨first', others'⟩ := other
  obtain ⟨rfl, rfl⟩ := List.cons.inj h
  rfl

theorem serverRoots_serverRoots (hset : ∀ member ∈ set.toList, member.IsObtained) :
    set.serverRoots.serverRoots = set.serverRoots := by
  have hroots : set.serverRoots.toList.map Endpoint.serverRoot = set.serverRoots.toList := by
    refine (List.map_congr_left fun root hroot => ?_).trans (List.map_id _)
    obtain ⟨member, hmember, rfl⟩ := mem_serverRoots.mp hroot
    exact (hset member hmember).serverRoot_serverRoot
  refine eq_of_toList ?_
  rw [toList_serverRoots, hroots]
  refine distinct_of_nodup ?_
  rw [toList_serverRoots]
  exact nodup_distinct _

end EndpointSet

/-! ## Logins -/

def Network.silent : Network Unit where
  bind _ := .ok ()
  send endpoint _ _ := (.error (.transport endpoint.text "no answer"), ())

variable {σ : Type} {net : Network σ}

theorem Network.bindAll_eq_ok_iff {endpoints : List Endpoint} :
    net.bindAll endpoints = .ok () ↔ ∀ endpoint ∈ endpoints, net.bind endpoint = .ok () := by
  induction endpoints with
  | nil => simp [bindAll]
  | cons endpoint rest ih =>
      rw [List.forall_mem_cons, ← ih, bindAll]
      cases net.bind endpoint with
      | ok ready => simp
      | error failure => simp

theorem Channel.exists_connect_iff {set : EndpointSet} {policy : RetryPolicy} :
    (∃ channel, connect net set policy = .ok channel)
      ↔ ∀ endpoint ∈ set.toList ++ set.serverRoots.toList, net.bind endpoint = .ok () := by
  have hconnect : ∀ endpoints : EndpointSet,
      (∃ failover, Failover.connect net endpoints policy = .ok failover)
        ↔ ∀ endpoint ∈ endpoints.toList, net.bind endpoint = .ok () := by
    intro endpoints
    rw [← Network.bindAll_eq_ok_iff, Failover.connect]
    cases net.bindAll endpoints.toList <;> simp
  rw [List.forall_mem_append, ← hconnect, ← hconnect, connect]
  cases Failover.connect net set policy with
  | error failure => simp
  | ok requests => cases Failover.connect net set.serverRoots policy <;> simp

namespace EndpointSet

variable {set : EndpointSet}

/-- To list the servers of a set is an idempotent projection that keeps the order. There is at least
one, each is listed once, they are the servers of the members and no others, one before another if
it occurs first, and their own servers are themselves. So a channel can be made as soon as all
endpoints and servers are ready, its logins have somewhere to go, and a login goes through the
servers in that order. -/
theorem server_roots_project (hset : ∀ member ∈ set.toList, member.IsObtained)
    (net : Network σ) (policy : RetryPolicy) :
    let roots := set.serverRoots.toList
    let all := set.toList.map Endpoint.serverRoot
    roots ≠ [] ∧ roots.Nodup
      ∧ (∀ root, root ∈ roots ↔ ∃ member ∈ set.toList, member.serverRoot = root)
      ∧ roots.Pairwise (fun a b => all.idxOf a < all.idxOf b)
      ∧ set.serverRoots.serverRoots = set.serverRoots
      ∧ (∀ endpoint : Endpoint, endpoint.IsObtained →
        endpoint.serverRoot.serverRoot = endpoint.serverRoot)
      ∧ ((∃ channel, Channel.connect net set policy = .ok channel)
        ↔ ∀ endpoint ∈ set.toList ++ roots, net.bind endpoint = .ok ())
      ∧ ∀ channel, Channel.connect net set policy = .ok channel →
          Failover.ofList roots policy = .ok channel.login
            ∧ ∀ request (link : Link σ),
              (channel.login.round net request link).GoesThrough roots := by
  intro roots all
  have hdigest : IsDigestOf roots all := by
    show IsDigestOf set.serverRoots.toList all
    rw [toList_serverRoots]
    exact isDigestOf_distinct all
  refine ⟨List.cons_ne_nil _ _, hdigest.nodup, fun root => mem_serverRoots,
    hdigest.ordered, serverRoots_serverRoots hset,
    fun endpoint hendpoint => hendpoint.serverRoot_serverRoot,
    Channel.exists_connect_iff, fun channel hconnect => ?_⟩
  obtain ⟨-, hlogin⟩ := channel.eq_of_connect net hconnect
  have hroots : channel.login.endpoints.toList = roots := by rw [hlogin]
  refine ⟨by rw [hlogin]; rfl, fun request link => ?_⟩
  rw [← hroots]
  exact channel.login.round_goesThrough net request link

/-- Three repositories on two servers, one of which is reached through another path. -/
def threeRepositories : EndpointSet :=
  ⟨localEndpoint ["graphdb", "repositories", "a"],
    [localEndpoint ["repositories", "b"], localEndpoint ["graphdb", "repositories", "c"]]⟩

/-- A login that nobody answers is tried three times on each of the two servers. -/
theorem server_roots_project_three_repositories :
    let roots := [localEndpoint ["graphdb"], localEndpoint [""]]
    parse ["http://[::1]:7200/graphdb/repositories/a", "http://[::1]:7200/repositories/b",
        "http://[::1]:7200/graphdb/repositories/c"] = .ok threeRepositories
      ∧ threeRepositories.serverRoots.toList = roots
      ∧ threeRepositories.serverRoots.serverRoots = threeRepositories.serverRoots
      ∧ ∃ channel, Channel.connect Network.silent threeRepositories {} = .ok channel
        ∧ (channel.login.round Network.silent (.get "") ⟨(), []⟩).sentTo
          = roots.flatMap (List.replicate 3)
        ∧ (channel.login.round Network.silent (.get "") ⟨(), []⟩).GoesThrough roots := by
  intro roots
  have hset : ∀ member ∈ threeRepositories.toList, member.IsObtained := by
    simp only [threeRepositories, toList, List.forall_mem_cons]
    exact ⟨.parse (rfl : Endpoint.parse "http://[::1]:7200/graphdb/repositories/a" = _),
      .parse (rfl : Endpoint.parse "http://[::1]:7200/repositories/b" = _),
      .parse (rfl : Endpoint.parse "http://[::1]:7200/graphdb/repositories/c" = _), nofun⟩
  have hconnect : Channel.connect Network.silent threeRepositories {} = .ok _ := rfl
  obtain ⟨-, -, -, -, hidempotent, -, -, hchannel⟩ := server_roots_project hset Network.silent {}
  exact ⟨rfl, rfl, hidempotent, _, hconnect, rfl, (hchannel _ hconnect).2 (.get "") ⟨(), []⟩⟩

end EndpointSet

end Quadlink
