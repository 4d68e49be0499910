import Tamanor.Library.Paging
import Tamanor.Sync.Ingest

/-! Reading the comments of an Instagram account (`instagram-content.ts`): media pages,
and for each media its comment pages, through a transport. -/

set_option autoImplicit false

namespace Tamanor.Sync

open Tamanor.Core Library Library.Paging

inductive MetaErrorKind where
  | tokenExpired | permission | rateLimit | generic | timeout | network | serverError
  | invalidResponse
deriving DecidableEq

structure MetaErrorDetail where
  status : Int
  code : Option Int
  subcode : Option Int
  kind : MetaErrorKind
deriving DecidableEq

inductive ProviderError where
  | graph (detail : MetaErrorDetail)
  | other
deriving DecidableEq

inductive IgPermissionState where
  | healthy | permissionMissing | appReviewPending | businessVerificationRequired | tokenExpired
  | instagramNotLinked | professionalAccountRequired | accountNotDiscoverable | apiUnavailable
  | rateLimited

def classifyIgPermissionState : ProviderError → IgPermissionState
  | .other => .apiUnavailable
  | .graph detail =>
    if detail.kind = .tokenExpired then .tokenExpired
    else if detail.kind = .rateLimit then .rateLimited
    else if detail.status = 404 ∨ detail.code = some 803 ∨ detail.code = some 33 then
      .accountNotDiscoverable
    else if 500 ≤ detail.status ∨ detail.code = some 1 ∨ detail.code = some 2 then .apiUnavailable
    else if detail.subcode = some 2207032 then .businessVerificationRequired
    else if detail.kind = .permission then .permissionMissing
    else .apiUnavailable

def isMediaUnavailable : ProviderError → Bool
  | .other => false
  | .graph detail =>
    decide (detail.status = 404 ∨ detail.code = some 803 ∨ detail.code = some 33 ∨
      detail.code = some 100)

structure MetaMediaRef where
  id : String
  permalink : Option String

structure MetaCommentRef where
  id : String
  text : Text
  timestamp : Int
  authorUsername : Option String
  authorId : Option String
  parentCommentId : Option String

structure MetaContentListOptions where
  after : Option String
  limit : Option Nat

structure MetaContentTransport where
  listMedia : String → String → MetaContentListOptions → Except ProviderError (Page MetaMediaRef)
  listComments : String → String → MetaContentListOptions →
    Except ProviderError (Page MetaCommentRef)

def igMaxMediaPages : Nat := 20

def igMaxCommentPagesPerMedia : Nat := 20

structure IgIngestResult where
  items : List FetchedContent
  cursor : Option String
  truncated : Bool
  skippedMedia : Nat
  mediaScanned : Nat

structure IgReadOptions where
  after : Option String
  mediaLimit : Option Nat
  commentLimit : Option Nat

structure IgReader where
  transport : MetaContentTransport
  igBusinessId : String
  accessToken : String
  mediaLimit : Option Nat
  commentLimit : Option Nat

def normalizedComment (media : MetaMediaRef) (comment : MetaCommentRef) : FetchedContent where
  externalId := comment.id
  externalParentId := some (comment.parentCommentId.getD media.id)
  kind := "comment"
  platform := .instagramBusiness
  text := comment.text
  rating := none
  author := ⟨comment.authorId, comment.authorUsername, none⟩
  permalink := media.permalink
  publishedAt := comment.timestamp

/-- The entries of one page of comments; a comment without text gives none. -/
def normalizedPage (media : MetaMediaRef) (comments : List MetaCommentRef) : List FetchedContent :=
  (comments.filter fun comment => comment.text ≠ []).map (normalizedComment media)

namespace IgReader

def mediaPage (reader : IgReader) (after : Option String) :
    Except ProviderError (Page MetaMediaRef) :=
  reader.transport.listMedia reader.igBusinessId reader.accessToken ⟨after, reader.mediaLimit⟩

def commentPage (reader : IgReader) (media : MetaMediaRef) (after : Option String) :
    Except ProviderError (Page MetaCommentRef) :=
  reader.transport.listComments media.id reader.accessToken ⟨after, reader.commentLimit⟩

end IgReader

/-- A walk over the comment pages, which returns silently at the cap. What was appended
before an error stays. -/
def collectComments (reader : IgReader) (media : MetaMediaRef) (out : List FetchedContent) :
    List FetchedContent × Option ProviderError :=
  let read := walk (reader.commentPage media)
    (fun out comments => (out ++ normalizedPage media comments, none))
    igMaxCommentPagesPerMedia none out
  match read.stop with
  | .ended | .capped => (read.state, none)
  | .failed err => (read.state, some err)

structure IgReadState where
  items : List FetchedContent
  mediaScanned : Nat
  skippedMedia : Nat

def scanMedia (reader : IgReader) (state : IgReadState) (media : MetaMediaRef) :
    IgReadState × Option ProviderError :=
  match collectComments reader media state.items with
  | (items, none) => (⟨items, state.mediaScanned + 1, state.skippedMedia⟩, none)
  | (items, some err) =>
    if isMediaUnavailable err then
      (⟨items, state.mediaScanned + 1, state.skippedMedia + 1⟩, none)
    else (⟨items, state.mediaScanned + 1, state.skippedMedia⟩, some err)

def fetchInstagramContent (igBusinessId accessToken : String) (transport : MetaContentTransport)
    (opts : IgReadOptions) : Except ProviderError IgIngestResult :=
  let reader : IgReader := ⟨transport, igBusinessId, accessToken, opts.mediaLimit, opts.commentLimit⟩
  let read := walk reader.mediaPage (forEach (scanMedia reader)) igMaxMediaPages opts.after ⟨[], 0, 0⟩
  let result (truncated : Bool) : IgIngestResult :=
    ⟨read.state.items, read.cursor, truncated, read.state.skippedMedia, read.state.mediaScanned⟩
  match read.stop with
  | .ended => .ok (result false)
  | .capped => .ok (result true)
  | .failed err => .error err

end Tamanor.Sync
