import SentenceSampler.Grammar

/-!
Two built-in grammars: simple sentences and weather reports.
-/
namespace SentenceSampler

inductive Sample where
  | toy
  | weather
deriving DecidableEq, Repr

namespace Sample

def all : List Sample := [toy, weather]

def name : Sample → String
  | toy => "toy"
  | weather => "weather"

def ofName? (name : String) : Option Sample := all.find? fun sample => sample.name = name

def start : Sample → Symbol
  | toy => "S"
  | weather => "FORECAST"

/-- Short affirmations and questions: terminals are words, non-terminals syntactic categories. -/
def toyRules : List Rule := [
  ⟨"S", ["AFFIRMATION", "."]⟩,
  ⟨"AFFIRMATION", ["NP", "VP"]⟩,
  ⟨"AFFIRMATION", ["NP", "VP", "NP"]⟩,
  ⟨"AFFIRMATION", ["THATP", "THATP", "NP", "VP"]⟩,
  ⟨"S", ["QUESTION", " ?"]⟩,
  ⟨"QUESTION", ["AUX", "NP", "VP", "NP"]⟩,
  ⟨"QUESTION", ["AUX", "THATP", "NP", "VP", "NP"]⟩,
  ⟨"AUX", ["Does"]⟩,
  ⟨"THATP", ["NP", "VP", "Ti"]⟩,
  ⟨"Ti", ["that"]⟩,
  ⟨"NP", ["Jamy"]⟩,
  ⟨"NP", ["Sabine"]⟩,
  ⟨"VP", ["Vi"]⟩,
  ⟨"Vi", ["reads"]⟩,
  ⟨"Vi", ["hears"]⟩,
  ⟨"Vi", ["hear"]⟩,
  ⟨"Vi", ["believes"]⟩,
  ⟨"Vi", ["think"]⟩,
  ⟨"Vi", ["writes"]⟩]

/-- A report of several sentences: terminals are fragments of them, non-terminals what they tell.
The two kinds of weather keep the verb in agreement. -/
def weatherRules : List Rule := [
  ⟨"FORECAST", ["INTRO", "WEATHER_S", "AIR_S", "WIND_S", "FAREWELL"]⟩,
  ⟨"INTRO", ["Weather forecast for", "DATE_P", "."]⟩,
  ⟨"DATE_P", ["DATE"]⟩,
  ⟨"DATE_P", ["next", "DAY_OF_WEEK"]⟩,
  ⟨"DATE_P", ["next", "TIME_WORD"]⟩,
  ⟨"DATE", ["today"]⟩,
  ⟨"DATE", ["tomorrow"]⟩,
  ⟨"DAY_OF_WEEK", ["Monday"]⟩,
  ⟨"DAY_OF_WEEK", ["Tuesday"]⟩,
  ⟨"DAY_OF_WEEK", ["Wednesday"]⟩,
  ⟨"DAY_OF_WEEK", ["Thursday"]⟩,
  ⟨"DAY_OF_WEEK", ["Friday"]⟩,
  ⟨"DAY_OF_WEEK", ["Saturday"]⟩,
  ⟨"DAY_OF_WEEK", ["Sunday"]⟩,
  ⟨"TIME_WORD", ["month"]⟩,
  ⟨"TIME_WORD", ["year"]⟩,
  ⟨"TIME_WORD", ["summer"]⟩,
  ⟨"TIME_WORD", ["winter"]⟩,
  ⟨"TIME_WORD", ["autumn"]⟩,
  ⟨"TIME_WORD", ["spring"]⟩,
  ⟨"TIME_WORD", ["Christmas"]⟩,
  ⟨"TIME_WORD", ["Easter"]⟩,
  ⟨"WEATHER_S", ["TIME", ",", "EXPECTED_WEATHER_1", "."]⟩,
  ⟨"WEATHER_S", ["TIME", ",", "in", "CITY", "and", "CITY", ",", "EXPECTED_WEATHER_2", "."]⟩,
  ⟨"TIME", ["In the morning"]⟩,
  ⟨"TIME", ["In the afternoon"]⟩,
  ⟨"TIME", ["During the night"]⟩,
  ⟨"EXPECTED_WEATHER_1", ["WEATHER_TYPE_IS", "is expected in", "CITY"]⟩,
  ⟨"EXPECTED_WEATHER_1", ["WEATHER_TYPE_ARE", "are expected in", "CITY"]⟩,
  ⟨"EXPECTED_WEATHER_2",
    ["WEATHER_TYPE_IS", "is expected but the weather will be", "WEATHER_ADJ"]⟩,
  ⟨"EXPECTED_WEATHER_2",
    ["WEATHER_TYPE_ARE", "are expected but the weather will be", "WEATHER_ADJ"]⟩,
  ⟨"WEATHER_TYPE_IS", ["light rain"]⟩,
  ⟨"WEATHER_TYPE_IS", ["heavy rain"]⟩,
  ⟨"WEATHER_TYPE_IS", ["light snow"]⟩,
  ⟨"WEATHER_TYPE_IS", ["heavy snow"]⟩,
  ⟨"WEATHER_TYPE_ARE", ["a fair bit of clouds"]⟩,
  ⟨"WEATHER_TYPE_ARE", ["a lot of clouds"]⟩,
  ⟨"CITY", ["Toulouse"]⟩,
  ⟨"CITY", ["Paris"]⟩,
  ⟨"CITY", ["Marseille"]⟩,
  ⟨"CITY", ["Montpellier"]⟩,
  ⟨"CITY", ["Lyon"]⟩,
  ⟨"CITY", ["Lisbon"]⟩,
  ⟨"CITY", ["Mumbai"]⟩,
  ⟨"CITY", ["Atlanta"]⟩,
  ⟨"CITY", ["Carcavelos"]⟩,
  ⟨"CITY", ["Barcelona"]⟩,
  ⟨"CITY", ["Seoul"]⟩,
  ⟨"CITY", ["Moscow"]⟩,
  ⟨"CITY", ["Llanfairpwllgwyngyllgogerychwyrndrobwllllantysiliogogogoch"]⟩,
  ⟨"CITY", ["Maputo"]⟩,
  ⟨"CITY", ["Luanda"]⟩,
  ⟨"CITY", ["Gincho"]⟩,
  ⟨"CITY", ["Algarve"]⟩,
  ⟨"WEATHER_ADJ", ["sunny"]⟩,
  ⟨"WEATHER_ADJ", ["cloudy"]⟩,
  ⟨"WEATHER_ADJ", ["rainy"]⟩,
  ⟨"WEATHER_ADJ", ["nice"]⟩,
  ⟨"WEATHER_ADJ", ["stable"]⟩,
  ⟨"WEATHER_ADJ", ["cold"]⟩,
  ⟨"WEATHER_ADJ", ["warm"]⟩,
  ⟨"WEATHER_ADJ", ["good"]⟩,
  ⟨"WEATHER_ADJ", ["dry"]⟩,
  ⟨"WEATHER_ADJ", ["humid"]⟩,
  ⟨"AIR_S", ["AIR", "is noticeable", "AIR_SPEED", "."]⟩,
  ⟨"AIR", ["Light air"]⟩,
  ⟨"AIR", ["A gentle breeze"]⟩,
  ⟨"AIR", ["Polluted air"]⟩,
  ⟨"AIR", ["Contaminated air"]⟩,
  ⟨"AIR_SPEED", ["(1 to 7 km/h)"]⟩,
  ⟨"AIR_SPEED", ["(12 to 20 km/h)"]⟩,
  ⟨"AIR_SPEED", ["(20 to 30 km/h)"]⟩,
  ⟨"WIND_S", ["Winds blowing from", "WIND_DIRECTION", "."]⟩,
  ⟨"WIND_DIRECTION", ["North"]⟩,
  ⟨"WIND_DIRECTION", ["South"]⟩,
  ⟨"WIND_DIRECTION", ["East"]⟩,
  ⟨"WIND_DIRECTION", ["West"]⟩,
  ⟨"WIND_DIRECTION", ["Southwest"]⟩,
  ⟨"WIND_DIRECTION", ["Southeast"]⟩,
  ⟨"WIND_DIRECTION", ["Northeast"]⟩,
  ⟨"WIND_DIRECTION", ["Northwest"]⟩,
  ⟨"FAREWELL", ["Have a", "DAY_ADJ", "DAY", "!"]⟩,
  ⟨"DAY_ADJ", ["nice"]⟩,
  ⟨"DAY_ADJ", ["lovely"]⟩,
  ⟨"DAY_ADJ", ["terrific"]⟩,
  ⟨"DAY_ADJ", ["superb"]⟩,
  ⟨"DAY_ADJ", ["wonderful"]⟩,
  ⟨"DAY", ["day"]⟩,
  ⟨"DAY", ["evening"]⟩,
  ⟨"DAY", ["afternoon"]⟩,
  ⟨"DAY", ["morning"]⟩]

def rules : Sample → List Rule
  | toy => toyRules
  | weather => weatherRules

/-- The grammar of a sample, with its own start symbol unless another one is asked for. -/
def grammar (sample : Sample) (asked : Option Symbol) : Except Failure Grammar :=
  Grammar.ofRules sample.rules (asked.getD sample.start)

end Sample

end SentenceSampler
