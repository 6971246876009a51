import Gleaner.World.Basic

/-!
# Sites

The addresses from which films and transcripts are gathered, and how long a request to them may take.
-/

namespace Gleaner.Site

/-- The site of film scripts and transcripts. -/
def scripts : Text := "https://imsdb.com"

/-- The page of the film chart. -/
def chart : Text := "https://www.imdb.com/chart/top/"

/-- The page of a film. -/
def film (id : Text) : Text :=
  Text.cat ["https://www.imdb.com/title/", id, "/"]

/-- The page of searches on the site of scripts. -/
def searches : Text := "https://imsdb.com/searches"

/-- The proxies through which films are asked for, by the kind of request. -/
def proxies : List (Text × Text) :=
  [("http", "http://127.0.0.1:20171"), ("https", "http://127.0.0.1:20171"),
    ("socks5", "socks5://127.0.0.1:20170")]

/-- The name under which requests come. -/
def agent : Text := "Mozilla/5.0 (Windows NT 10.0; Win64; x64) AppleWebKit/537.36"

/-- The languages that are asked for. -/
def languages : Text := "en-US,en;q=0.9"

/-- Seconds that a request may take. -/
def timeout : Nat := 30

end Gleaner.Site
