import Mathlib.Data.List.Basic

/-!
# URLs and origins

The canonical form of a URL by its components. A default `GURL` is the empty URL.
-/

namespace DumbBrowser

structure GURL where
  scheme : String := ""
  userinfo : Option String := none
  host : String := ""
  port : Option Nat := none
  path : String := ""
  query : Option String := none
  ref : Option String := none
deriving DecidableEq, Repr

namespace GURL

def isEmpty (u : GURL) : Bool := u == {}

def spec (u : GURL) : String :=
  if u.isEmpty then ""
  else
    u.scheme ++ "://" ++ (match u.userinfo with | some i => i ++ "@" | none => "") ++ u.host ++
      (match u.port with | some p => ":" ++ toString p | none => "") ++ u.path ++
      (match u.query with | some q => "?" ++ q | none => "") ++
      (match u.ref with | some r => "#" ++ r | none => "")

def hasQuery (u : GURL) : Bool := u.query.isSome

def schemeIs (u : GURL) (s : String) : Bool := u.scheme == s

def schemeIsHTTPOrHTTPS (u : GURL) : Bool := u.schemeIs "http" || u.schemeIs "https"

def schemeIsWSOrWSS (u : GURL) : Bool := u.schemeIs "ws" || u.schemeIs "wss"

/-- `GURL::ReplaceComponents` with a replacement of the query only. -/
def replaceQuery (u : GURL) (query : Option String) : GURL := { u with query := query }

/-- Everything but the query is equal. -/
def SameButQuery (u v : GURL) : Prop := u.replaceQuery none = v.replaceQuery none

instance (u v : GURL) : Decidable (SameButQuery u v) := inferInstanceAs (Decidable (_ = _))

@[simp] theorem replaceQuery_query (u : GURL) (q : Option String) :
    (u.replaceQuery q).query = q := rfl

end GURL

/-- An origin: a tuple, or an opaque one with its nonce. -/
inductive Origin where
  | tuple (scheme host : String) (port : Option Nat)
  | opaqueOrigin (nonce : Nat)
deriving DecidableEq, Repr

namespace Origin

def standardSchemes : List String :=
  ["http", "https", "ws", "wss", "ftp", "file", "chrome", "chrome-extension"]

/-- `url::Origin::Create`; only standard URLs have a tuple origin. -/
def create (u : GURL) : Origin :=
  if standardSchemes.contains u.scheme then tuple u.scheme u.host u.port else opaqueOrigin 0

/-- Every comparison of the program has a freshly created origin on one side, so no two opaque
origins that are compared share a nonce. -/
def isSameOriginWith : Origin → Origin → Bool
  | tuple s h p, tuple s' h' p' => s == s' && h == h' && p == p'
  | _, _ => false

/-- `url::Origin::GetURL`. -/
def getURL : Origin → GURL
  | tuple s h p => { scheme := s, host := h, port := p, path := "/" }
  | opaqueOrigin _ => {}

end Origin

end DumbBrowser
