import HostedFiles.Service.Routes

/-!
# Proofs/Service/Responses — what a response keeps when it is sent

A response is sent with its length and with the headers of every answer.  Its status is kept, its
other headers are kept (`header?_sent`), a length that it states itself is kept, and its body is
kept unless only the head was asked for (`body_sent`).
-/

namespace HostedFiles

open Http

/-! ## Setting headers -/

namespace Http.Response

variable {name : String}

/-- Headers set one after the other leave the others as they are. -/
theorem header?_foldl {rows : List (String × String)} (h : name ∉ rows.map Prod.fst)
    (r : Response) :
    (rows.foldl (fun r row => r.withHeader row.1 row.2) r).header? name = r.header? name := by
  induction rows generalizing r with
  | nil => rfl
  | cons row rows ih =>
    rw [List.map_cons, List.mem_cons, not_or] at h
    rw [List.foldl_cons, ih h.2, header?_withHeader, if_neg h.1]

/-- They leave the status and the body as they are. -/
theorem status_body_foldl (rows : List (String × String)) (r : Response) :
    (rows.foldl (fun r row => r.withHeader row.1 row.2) r).status = r.status ∧
      (rows.foldl (fun r row => r.withHeader row.1 row.2) r).body = r.body := by
  induction rows generalizing r with
  | nil => exact ⟨rfl, rfl⟩
  | cons row rows ih => exact ih (r.withHeader row.1 row.2)

/-- What becomes of the headers is told by the headers alone. -/
theorem headers_foldl (rows : List (String × String)) (r : Response) :
    (rows.foldl (fun r row => r.withHeader row.1 row.2) r).headers =
      rows.foldl (fun headers row => Rows.put headers row.1 row.2) r.headers := by
  induction rows generalizing r with
  | nil => rfl
  | cons row rows ih => exact ih (r.withHeader row.1 row.2)

/-- Stating the length leaves the status and the body as they are. -/
theorem status_body_withLength (r : Response) :
    r.withLength.status = r.status ∧ r.withLength.body = r.body := by
  rw [withLength]
  split <;> exact ⟨rfl, rfl⟩

/-- Stating the length leaves the other headers as they are. -/
theorem header?_withLength (h : name ≠ "content-length") (r : Response) :
    r.withLength.header? name = r.header? name := by
  rw [withLength]
  split
  · rw [header?_withHeader, if_neg h]
  · rfl

/-- A length that is stated already is kept. -/
theorem withLength_eq_self {r : Response} {value : String}
    (h : r.header? "content-length" = some value) : r.withLength = r := by
  rw [withLength, h]

end Http.Response

namespace Service

variable {production : Bool} {method name : String}

/-! ## Sending -/

/-- The headers that sending may set. -/
def sentNames : List String :=
  "content-length" :: (securityHeaders true).map Prod.fst

/-- The headers of every answer are among those that sending may set. -/
theorem not_mem_securityHeaders (h : name ∉ (securityHeaders true).map Prod.fst) :
    name ∉ (securityHeaders production).map Prod.fst := by
  cases production with
  | true => exact h
  | false =>
    intro hmem
    refine h ?_
    rw [securityHeaders, List.map_append]
    rw [securityHeaders, if_neg Bool.false_ne_true, List.append_nil] at hmem
    exact List.mem_append_left _ hmem

/-- **The status is kept.** -/
@[simp] theorem status_sent (r : Response) : (sent production method r).status = r.status := by
  rw [sent, (Response.status_body_foldl _ _).1]
  split <;> exact (Response.status_body_withLength r).1

/-- **The body is kept** unless only the head was asked for. -/
theorem body_sent (r : Response) : (sent production method r).body =
    if method = "HEAD" then .whole ByteArray.empty else r.body := by
  rw [sent, (Response.status_body_foldl _ _).2]
  split
  · rfl
  · exact (Response.status_body_withLength r).2

/-- **The headers do not depend on the method** that asked for them. -/
theorem headers_sent (r : Response) : (sent production method r).headers =
    (securityHeaders production).foldl (fun headers row => Rows.put headers row.1 row.2)
      r.withLength.headers := by
  rw [sent, Response.headers_foldl]
  split <;> rfl

/-- **Every header is kept** that sending does not set. -/
theorem header?_sent (h : name ∉ sentNames) (r : Response) :
    (sent production method r).header? name = r.header? name := by
  rw [sentNames, List.mem_cons, not_or] at h
  rw [sent, Response.header?_foldl (not_mem_securityHeaders h.2)]
  split <;> exact Response.header?_withLength h.1 r

/-- **A length that is stated already is kept.** -/
theorem contentLength_sent {r : Response} {value : String}
    (h : r.header? "content-length" = some value) :
    (sent production method r).header? "content-length" = some value := by
  have hother : "content-length" ∉ (securityHeaders true).map Prod.fst := by decide
  rw [sent, Response.header?_foldl (not_mem_securityHeaders hother), Response.withLength_eq_self h]
  split <;> exact h

end Service

/-! ## Failures -/

namespace Failure

/-- The page that reports a failure has the failure's status. -/
@[simp] theorem status_response (f : Failure) : f.response.status = f.status := by
  rw [response]
  split <;> rfl

/-- **Every failure is told as an error.** -/
theorem code_status_ge (f : Failure) : 400 ≤ f.status.code := by
  cases f <;> simp only [status] <;> decide

/-- So it is not told as anything else. -/
theorem status_ne (f : Failure) {status : Status} (h : status.code < 400) : f.status ≠ status := by
  rintro rfl
  exact Nat.not_lt.2 f.code_status_ge h

/-- No failure is told as what was asked for. -/
theorem status_response_ne_ok (f : Failure) : f.response.status ≠ .ok :=
  f.status_response ▸ f.status_ne (by decide)

/-- No failure is told as something created. -/
theorem status_ne_created (f : Failure) : f.status ≠ .created :=
  f.status_ne (by decide)

end Failure

end HostedFiles
