import StubHttp.Net.Socket
import StubHttp.Proofs.Outcome

/-!
# Binding a socket again

An endpoint that has been bound is owned, open and has a port, so it is refused
only while someone listens there and can be had again afterwards
(`Host.bind_of_bound`). That a socket has been closed there just now makes no
difference to one that has asked to reuse addresses (`Host.bindSocket_reusing`),
and every listening socket of the program has (`listenReusable_eq`).
-/

namespace StubHttp.Net

@[simp] theorem Endpoint.address_withPort (e : Endpoint) (port : UInt16) :
    (e.withPort port).address = e.address := by
  cases e <;> rfl

@[simp] theorem Endpoint.port_withPort (e : Endpoint) (port : UInt16) :
    (e.withPort port).port = port := by
  cases e <;> rfl

namespace Host

variable {host : Host} {inUse : List Endpoint} {e bound : Endpoint}

/-- The order in which address and port are looked at shows only in the error. -/
theorem bind_of_open (howned : host.owns e.address = true)
    (hopen : host.isPrivileged e.port = false) : host.bind inUse e = bind.granted host inUse e := by
  cases e with
  | v4 ip port => rw [bind, howned, hopen]; rfl
  | v6 ip port zone => rw [bind, howned, hopen]; rfl

theorem open_of_bind (h : host.bind inUse e = .ok bound) :
    host.owns e.address = true ∧ host.isPrivileged e.port = false := by
  cases e with
  | v4 ip port =>
      rw [bind] at h
      split at h
      · cases h
      · next howned =>
        split at h
        · cases h
        · next hopen => exact ⟨by simpa using howned, eq_false_of_ne_true hopen⟩
  | v6 ip port zone =>
      rw [bind] at h
      split at h
      · cases h
      · next hopen =>
        split at h
        · cases h
        · next howned => exact ⟨by simpa using howned, eq_false_of_ne_true hopen⟩

theorem bind_of_port_ne_zero (howned : host.owns e.address = true)
    (hopen : host.isPrivileged e.port = false) (hport : e.port ≠ 0) :
    host.bind inUse e = if e ∈ inUse then .error .addressInUse else .ok e := by
  rw [bind_of_open howned hopen, bind.granted, if_neg hport]

theorem isPrivileged_freePort (host : Host) : host.isPrivileged host.freePort = false := by
  have hfree := host.firstOpenPort_le_freePort
  simp only [isPrivileged, Bool.and_eq_false_iff, decide_eq_false_iff_not]
  exact .inr (UInt16.not_lt.mpr hfree)

/-- Where a socket has been bound once, one may be bound whenever no other listens there. -/
theorem bind_of_bound (h : host.bind inUse e = .ok bound) (inUse' : List Endpoint) :
    host.bind inUse' bound = if bound ∈ inUse' then .error .addressInUse else .ok bound := by
  obtain ⟨howned, hopen⟩ := open_of_bind h
  rw [bind_of_open howned hopen, bind.granted] at h
  split at h
  · -- Port zero has been asked for, and another one was handed out.
    obtain rfl := Except.ok.inj h
    refine bind_of_port_ne_zero ?_ ?_ ?_
    · rw [Endpoint.address_withPort, howned]
    · rw [Endpoint.port_withPort, isPrivileged_freePort]
    · rw [Endpoint.port_withPort]
      exact host.freePort_ne_zero
  · next hport =>
    split at h
    · cases h
    · obtain rfl := Except.ok.inj h
      exact bind_of_port_ne_zero howned hopen hport

/-- Where a socket has been closed, one that reuses addresses is bound as if none had been there. -/
theorem bindSocket_reusing (host : Host) (occupied : Occupied) (e : Endpoint) :
    host.bindSocket occupied ⟨e.family, true⟩ e = host.bind occupied.listening e := by
  cases e <;> rfl

/-- One that does not is refused there until the connections have run out. -/
example : Host.isolated.bindSocket (Listener.onceClosed ⟨.v4 .loopback 8080, 1⟩) (.new .v4)
    (.v4 .loopback 8080) = .error .addressInUse := by
  rfl

end Host

/-- The socket that is bound is one for the family of the endpoint, and it reuses addresses. -/
theorem listenReusable_eq (binding : Binding) (e : Endpoint) (backlog : Nat) :
    listenReusable binding e backlog = (binding ⟨e.family, true⟩ e).map (⟨·, backlog⟩) := by
  rw [listenReusable, Socket.new]
  cases binding ⟨e.family, true⟩ e <;> rfl

end StubHttp.Net
