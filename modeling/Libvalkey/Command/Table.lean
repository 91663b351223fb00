import Libvalkey.Foundation.Bytes

/-! # The command table

`cmddef.h`: the commands of the server, and how the first key of each is found. -/

namespace Libvalkey

/-- `cmd_type_t`, as far as the parser tells the commands apart. -/
inductive CmdType
  | xread
  | xreadgroup
  | migrate
  | other
  deriving DecidableEq, Repr

/-- `cmd_keypos` -/
inductive KeyPos
  | none
  | unknown
  | index
  | keynum
  deriving DecidableEq, Repr

/-- `cmddef`. A negative `arity` is the least number of arguments. -/
structure CmdDef where
  type : CmdType
  name : Bytes
  subname : Option Bytes
  arity : Int
  firstkeymethod : KeyPos
  firstkeypos : Nat
  deriving DecidableEq

/-- The bytes of a string literal. -/
def literal (text : String) : Bytes := text.toUTF8.data.toList

/-- The macro `COMMAND`, for a command or a subcommand. -/
def COMMAND (type : CmdType) (name : String) (subname : Option String) (arity : Int)
    (method : KeyPos) (pos : Nat) : CmdDef :=
  ⟨type, literal name, subname.map literal, arity, method, pos⟩

/-- `server_commands` -/
def serverCommands : List CmdDef := [
  COMMAND .other "ACL" (some "CAT") (-2) .none 0,
  COMMAND .other "ACL" (some "DELUSER") (-3) .none 0,
  COMMAND .other "ACL" (some "DRYRUN") (-4) .none 0,
  COMMAND .other "ACL" (some "GENPASS") (-2) .none 0,
  COMMAND .other "ACL" (some "GETUSER") 3 .none 0,
  COMMAND .other "ACL" (some "HELP") 2 .none 0,
  COMMAND .other "ACL" (some "LIST") 2 .none 0,
  COMMAND .other "ACL" (some "LOAD") 2 .none 0,
  COMMAND .other "ACL" (some "LOG") (-2) .none 0,
  COMMAND .other "ACL" (some "SAVE") 2 .none 0,
  COMMAND .other "ACL" (some "SETUSER") (-3) .none 0,
  COMMAND .other "ACL" (some "USERS") 2 .none 0,
  COMMAND .other "ACL" (some "WHOAMI") 2 .none 0,
  COMMAND .other "APPEND" none 3 .index 1,
  COMMAND .other "ASKING" none 1 .none 0,
  COMMAND .other "AUTH" none (-2) .none 0,
  COMMAND .other "BF.ADD" none 3 .index 1,
  COMMAND .other "BF.CARD" none 2 .none 0,
  COMMAND .other "BF.EXISTS" none 3 .index 1,
  COMMAND .other "BF.INFO" none (-2) .index 1,
  COMMAND .other "BF.INSERT" none (-2) .index 1,
  COMMAND .other "BF.LOAD" none 3 .index 1,
  COMMAND .other "BF.MADD" none 3 .index 1,
  COMMAND .other "BF.MEXISTS" none 3 .index 1,
  COMMAND .other "BF.RESERVE" none (-4) .index 1,
  COMMAND .other "BGREWRITEAOF" none 1 .none 0,
  COMMAND .other "BGSAVE" none (-1) .none 0,
  COMMAND .other "BITCOUNT" none (-2) .index 1,
  COMMAND .other "BITFIELD" none (-2) .index 1,
  COMMAND .other "BITFIELD_RO" none (-2) .index 1,
  COMMAND .other "BITOP" none (-4) .index 2,
  COMMAND .other "BITPOS" none (-3) .index 1,
  COMMAND .other "BLMOVE" none 6 .index 1,
  COMMAND .other "BLMPOP" none (-5) .keynum 2,
  COMMAND .other "BLPOP" none (-3) .index 1,
  COMMAND .other "BRPOP" none (-3) .index 1,
  COMMAND .other "BRPOPLPUSH" none 4 .index 1,
  COMMAND .other "BZMPOP" none (-5) .keynum 2,
  COMMAND .other "BZPOPMAX" none (-3) .index 1,
  COMMAND .other "BZPOPMIN" none (-3) .index 1,
  COMMAND .other "CLIENT" (some "CACHING") 3 .none 0,
  COMMAND .other "CLIENT" (some "CAPA") (-3) .none 0,
  COMMAND .other "CLIENT" (some "GETNAME") 2 .none 0,
  COMMAND .other "CLIENT" (some "GETREDIR") 2 .none 0,
  COMMAND .other "CLIENT" (some "HELP") 2 .none 0,
  COMMAND .other "CLIENT" (some "ID") 2 .none 0,
  COMMAND .other "CLIENT" (some "IMPORT-SOURCE") 3 .none 0,
  COMMAND .other "CLIENT" (some "INFO") 2 .none 0,
  COMMAND .other "CLIENT" (some "KILL") (-3) .none 0,
  COMMAND .other "CLIENT" (some "LIST") (-2) .none 0,
  COMMAND .other "CLIENT" (some "NO-EVICT") 3 .none 0,
  COMMAND .other "CLIENT" (some "NO-TOUCH") 3 .none 0,
  COMMAND .other "CLIENT" (some "PAUSE") (-3) .none 0,
  COMMAND .other "CLIENT" (some "REPLY") 3 .none 0,
  COMMAND .other "CLIENT" (some "SETINFO") 4 .none 0,
  COMMAND .other "CLIENT" (some "SETNAME") 3 .none 0,
  COMMAND .other "CLIENT" (some "TRACKING") (-3) .none 0,
  COMMAND .other "CLIENT" (some "TRACKINGINFO") 2 .none 0,
  COMMAND .other "CLIENT" (some "UNBLOCK") (-3) .none 0,
  COMMAND .other "CLIENT" (some "UNPAUSE") 2 .none 0,
  COMMAND .other "CLUSTER" (some "ADDSLOTS") (-3) .none 0,
  COMMAND .other "CLUSTER" (some "ADDSLOTSRANGE") (-4) .none 0,
  COMMAND .other "CLUSTER" (some "BUMPEPOCH") 2 .none 0,
  COMMAND .other "CLUSTER" (some "CANCELSLOTMIGRATIONS") 2 .none 0,
  COMMAND .other "CLUSTER" (some "COUNT-FAILURE-REPORTS") 3 .none 0,
  COMMAND .other "CLUSTER" (some "COUNTKEYSINSLOT") 3 .none 0,
  COMMAND .other "CLUSTER" (some "DELSLOTS") (-3) .none 0,
  COMMAND .other "CLUSTER" (some "DELSLOTSRANGE") (-4) .none 0,
  COMMAND .other "CLUSTER" (some "FAILOVER") (-2) .none 0,
  COMMAND .other "CLUSTER" (some "FLUSHSLOT") (-3) .none 0,
  COMMAND .other "CLUSTER" (some "FLUSHSLOTS") 2 .none 0,
  COMMAND .other "CLUSTER" (some "FORGET") 3 .none 0,
  COMMAND .other "CLUSTER" (some "GETKEYSINSLOT") 4 .none 0,
  COMMAND .other "CLUSTER" (some "GETSLOTMIGRATIONS") 2 .none 0,
  COMMAND .other "CLUSTER" (some "HELP") 2 .none 0,
  COMMAND .other "CLUSTER" (some "INFO") 2 .none 0,
  COMMAND .other "CLUSTER" (some "KEYSLOT") 3 .none 0,
  COMMAND .other "CLUSTER" (some "LINKS") 2 .none 0,
  COMMAND .other "CLUSTER" (some "MEET") (-4) .none 0,
  COMMAND .other "CLUSTER" (some "MIGRATESLOTS") (-4) .none 0,
  COMMAND .other "CLUSTER" (some "MYID") 2 .none 0,
  COMMAND .other "CLUSTER" (some "MYSHARDID") 2 .none 0,
  COMMAND .other "CLUSTER" (some "NODES") 2 .none 0,
  COMMAND .other "CLUSTER" (some "REPLICAS") 3 .none 0,
  COMMAND .other "CLUSTER" (some "REPLICATE") (-3) .none 0,
  COMMAND .other "CLUSTER" (some "RESET") (-2) .none 0,
  COMMAND .other "CLUSTER" (some "SAVECONFIG") 2 .none 0,
  COMMAND .other "CLUSTER" (some "SET-CONFIG-EPOCH") 3 .none 0,
  COMMAND .other "CLUSTER" (some "SETSLOT") (-4) .none 0,
  COMMAND .other "CLUSTER" (some "SHARDS") 2 .none 0,
  COMMAND .other "CLUSTER" (some "SLAVES") 3 .none 0,
  COMMAND .other "CLUSTER" (some "SLOT-STATS") (-4) .none 0,
  COMMAND .other "CLUSTER" (some "SLOTS") 2 .none 0,
  COMMAND .other "CLUSTER" (some "SYNCSLOTS") (-3) .none 0,
  COMMAND .other "COMMANDLOG" (some "GET") 4 .none 0,
  COMMAND .other "COMMANDLOG" (some "HELP") 2 .none 0,
  COMMAND .other "COMMANDLOG" (some "LEN") 3 .none 0,
  COMMAND .other "COMMANDLOG" (some "RESET") 3 .none 0,
  COMMAND .other "COMMAND" (some "COUNT") 2 .none 0,
  COMMAND .other "COMMAND" (some "DOCS") (-2) .none 0,
  COMMAND .other "COMMAND" (some "GETKEYS") (-3) .none 0,
  COMMAND .other "COMMAND" (some "GETKEYSANDFLAGS") (-3) .none 0,
  COMMAND .other "COMMAND" (some "HELP") 2 .none 0,
  COMMAND .other "COMMAND" (some "INFO") (-2) .none 0,
  COMMAND .other "COMMAND" (some "LIST") (-2) .none 0,
  COMMAND .other "CONFIG" (some "GET") (-3) .none 0,
  COMMAND .other "CONFIG" (some "HELP") 2 .none 0,
  COMMAND .other "CONFIG" (some "RESETSTAT") 2 .none 0,
  COMMAND .other "CONFIG" (some "REWRITE") 2 .none 0,
  COMMAND .other "CONFIG" (some "SET") (-4) .none 0,
  COMMAND .other "COPY" none (-3) .index 1,
  COMMAND .other "DBSIZE" none 1 .none 0,
  COMMAND .other "DEBUG" none (-2) .none 0,
  COMMAND .other "DECR" none 2 .index 1,
  COMMAND .other "DECRBY" none 3 .index 1,
  COMMAND .other "DEL" none (-2) .index 1,
  COMMAND .other "DELIFEQ" none 3 .index 1,
  COMMAND .other "DISCARD" none 1 .none 0,
  COMMAND .other "DUMP" none 2 .index 1,
  COMMAND .other "ECHO" none 2 .none 0,
  COMMAND .other "EVAL" none (-3) .keynum 2,
  COMMAND .other "EVALSHA" none (-3) .keynum 2,
  COMMAND .other "EVALSHA_RO" none (-3) .keynum 2,
  COMMAND .other "EVAL_RO" none (-3) .keynum 2,
  COMMAND .other "EXEC" none 1 .none 0,
  COMMAND .other "EXISTS" none (-2) .index 1,
  COMMAND .other "EXPIRE" none (-3) .index 1,
  COMMAND .other "EXPIREAT" none (-3) .index 1,
  COMMAND .other "EXPIRETIME" none 2 .index 1,
  COMMAND .other "FAILOVER" none (-1) .none 0,
  COMMAND .other "FCALL" none (-3) .keynum 2,
  COMMAND .other "FCALL_RO" none (-3) .keynum 2,
  COMMAND .other "FLUSHALL" none (-1) .none 0,
  COMMAND .other "FLUSHDB" none (-1) .none 0,
  COMMAND .other "FT.CREATE" none (-1) .none 0,
  COMMAND .other "FT.DROPINDEX" none 2 .none 0,
  COMMAND .other "FT.INFO" none 2 .none 0,
  COMMAND .other "FT.SEARCH" none (-3) .index 1,
  COMMAND .other "FT._LIST" none 1 .none 0,
  COMMAND .other "FUNCTION" (some "DELETE") 3 .none 0,
  COMMAND .other "FUNCTION" (some "DUMP") 2 .none 0,
  COMMAND .other "FUNCTION" (some "FLUSH") (-2) .none 0,
  COMMAND .other "FUNCTION" (some "HELP") 2 .none 0,
  COMMAND .other "FUNCTION" (some "KILL") 2 .none 0,
  COMMAND .other "FUNCTION" (some "LIST") (-2) .none 0,
  COMMAND .other "FUNCTION" (some "LOAD") (-3) .none 0,
  COMMAND .other "FUNCTION" (some "RESTORE") (-3) .none 0,
  COMMAND .other "FUNCTION" (some "STATS") 2 .none 0,
  COMMAND .other "GEOADD" none (-5) .index 1,
  COMMAND .other "GEODIST" none (-4) .index 1,
  COMMAND .other "GEOHASH" none (-2) .index 1,
  COMMAND .other "GEOPOS" none (-2) .index 1,
  COMMAND .other "GEORADIUS" none (-6) .index 1,
  COMMAND .other "GEORADIUSBYMEMBER" none (-5) .index 1,
  COMMAND .other "GEORADIUSBYMEMBER_RO" none (-5) .index 1,
  COMMAND .other "GEORADIUS_RO" none (-6) .index 1,
  COMMAND .other "GEOSEARCH" none (-7) .index 1,
  COMMAND .other "GEOSEARCHSTORE" none (-8) .index 1,
  COMMAND .other "GET" none 2 .index 1,
  COMMAND .other "GETBIT" none 3 .index 1,
  COMMAND .other "GETDEL" none 2 .index 1,
  COMMAND .other "GETEX" none (-2) .index 1,
  COMMAND .other "GETRANGE" none 4 .index 1,
  COMMAND .other "GETSET" none 3 .index 1,
  COMMAND .other "HDEL" none (-3) .index 1,
  COMMAND .other "HELLO" none (-1) .none 0,
  COMMAND .other "HEXISTS" none 3 .index 1,
  COMMAND .other "HEXPIRE" none (-6) .index 1,
  COMMAND .other "HEXPIREAT" none (-6) .index 1,
  COMMAND .other "HEXPIRETIME" none (-5) .index 1,
  COMMAND .other "HGET" none 3 .index 1,
  COMMAND .other "HGETALL" none 2 .index 1,
  COMMAND .other "HGETEX" none (-5) .index 1,
  COMMAND .other "HINCRBY" none 4 .index 1,
  COMMAND .other "HINCRBYFLOAT" none 4 .index 1,
  COMMAND .other "HKEYS" none 2 .index 1,
  COMMAND .other "HLEN" none 2 .index 1,
  COMMAND .other "HMGET" none (-3) .index 1,
  COMMAND .other "HMSET" none (-4) .index 1,
  COMMAND .other "HPERSIST" none (-5) .index 1,
  COMMAND .other "HPEXPIRE" none (-6) .index 1,
  COMMAND .other "HPEXPIREAT" none (-6) .index 1,
  COMMAND .other "HPEXPIRETIME" none (-5) .index 1,
  COMMAND .other "HPTTL" none (-5) .index 1,
  COMMAND .other "HRANDFIELD" none (-2) .index 1,
  COMMAND .other "HSCAN" none (-3) .index 1,
  COMMAND .other "HSET" none (-4) .index 1,
  COMMAND .other "HSETEX" none (-6) .index 1,
  COMMAND .other "HSETNX" none 4 .index 1,
  COMMAND .other "HSTRLEN" none 3 .index 1,
  COMMAND .other "HTTL" none (-5) .index 1,
  COMMAND .other "HVALS" none 2 .index 1,
  COMMAND .other "INCR" none 2 .index 1,
  COMMAND .other "INCRBY" none 3 .index 1,
  COMMAND .other "INCRBYFLOAT" none 3 .index 1,
  COMMAND .other "INFO" none (-1) .none 0,
  COMMAND .other "JSON.ARRAPPEND" none (-4) .index 1,
  COMMAND .other "JSON.ARRINDEX" none 4 .index 1,
  COMMAND .other "JSON.ARRINSERT" none (-5) .index 1,
  COMMAND .other "JSON.ARRLEN" none 2 .index 1,
  COMMAND .other "JSON.ARRPOP" none 2 .index 1,
  COMMAND .other "JSON.ARRTRIM" none 5 .index 1,
  COMMAND .other "JSON.CLEAR" none 2 .index 1,
  COMMAND .other "JSON.DEBUG" none 2 .none 0,
  COMMAND .other "JSON.DEL" none 2 .index 1,
  COMMAND .other "JSON.FORGET" none (-1) .none 0,
  COMMAND .other "JSON.GET" none 2 .index 1,
  COMMAND .other "JSON.MGET" none (-3) .index 1,
  COMMAND .other "JSON.MSET" none (-4) .none 0,
  COMMAND .other "JSON.NUMINCRBY" none 4 .index 1,
  COMMAND .other "JSON.NUMMULTBY" none 4 .index 1,
  COMMAND .other "JSON.OBJKEYS" none 2 .index 1,
  COMMAND .other "JSON.OBJLEN" none 2 .index 1,
  COMMAND .other "JSON.RESP" none 2 .index 1,
  COMMAND .other "JSON.SET" none 4 .index 1,
  COMMAND .other "JSON.STRAPPEND" none 3 .index 1,
  COMMAND .other "JSON.STRLEN" none 2 .index 1,
  COMMAND .other "JSON.TOGGLE" none 2 .index 1,
  COMMAND .other "JSON.TYPE" none 2 .index 1,
  COMMAND .other "KEYS" none 2 .none 0,
  COMMAND .other "LASTSAVE" none 1 .none 0,
  COMMAND .other "LATENCY" (some "DOCTOR") 2 .none 0,
  COMMAND .other "LATENCY" (some "GRAPH") 3 .none 0,
  COMMAND .other "LATENCY" (some "HELP") 2 .none 0,
  COMMAND .other "LATENCY" (some "HISTOGRAM") (-2) .none 0,
  COMMAND .other "LATENCY" (some "HISTORY") 3 .none 0,
  COMMAND .other "LATENCY" (some "LATEST") 2 .none 0,
  COMMAND .other "LATENCY" (some "RESET") (-2) .none 0,
  COMMAND .other "LCS" none (-3) .index 1,
  COMMAND .other "LINDEX" none 3 .index 1,
  COMMAND .other "LINSERT" none 5 .index 1,
  COMMAND .other "LLEN" none 2 .index 1,
  COMMAND .other "LMOVE" none 5 .index 1,
  COMMAND .other "LMPOP" none (-4) .keynum 1,
  COMMAND .other "LOLWUT" none (-1) .none 0,
  COMMAND .other "LPOP" none (-2) .index 1,
  COMMAND .other "LPOS" none (-3) .index 1,
  COMMAND .other "LPUSH" none (-3) .index 1,
  COMMAND .other "LPUSHX" none (-3) .index 1,
  COMMAND .other "LRANGE" none 4 .index 1,
  COMMAND .other "LREM" none 4 .index 1,
  COMMAND .other "LSET" none 4 .index 1,
  COMMAND .other "LTRIM" none 4 .index 1,
  COMMAND .other "MEMORY" (some "DOCTOR") 2 .none 0,
  COMMAND .other "MEMORY" (some "HELP") 2 .none 0,
  COMMAND .other "MEMORY" (some "MALLOC-STATS") 2 .none 0,
  COMMAND .other "MEMORY" (some "PURGE") 2 .none 0,
  COMMAND .other "MEMORY" (some "STATS") 2 .none 0,
  COMMAND .other "MEMORY" (some "USAGE") (-3) .index 2,
  COMMAND .other "MGET" none (-2) .index 1,
  COMMAND .migrate "MIGRATE" none (-6) .index 3,
  COMMAND .other "MODULE" (some "HELP") 2 .none 0,
  COMMAND .other "MODULE" (some "LIST") 2 .none 0,
  COMMAND .other "MODULE" (some "LOAD") (-3) .none 0,
  COMMAND .other "MODULE" (some "LOADEX") (-3) .none 0,
  COMMAND .other "MODULE" (some "UNLOAD") 3 .none 0,
  COMMAND .other "MONITOR" none 1 .none 0,
  COMMAND .other "MOVE" none 3 .index 1,
  COMMAND .other "MSET" none (-3) .index 1,
  COMMAND .other "MSETNX" none (-3) .index 1,
  COMMAND .other "MULTI" none 1 .none 0,
  COMMAND .other "OBJECT" (some "ENCODING") 3 .index 2,
  COMMAND .other "OBJECT" (some "FREQ") 3 .index 2,
  COMMAND .other "OBJECT" (some "HELP") 2 .none 0,
  COMMAND .other "OBJECT" (some "IDLETIME") 3 .index 2,
  COMMAND .other "OBJECT" (some "REFCOUNT") 3 .index 2,
  COMMAND .other "PERSIST" none 2 .index 1,
  COMMAND .other "PEXPIRE" none (-3) .index 1,
  COMMAND .other "PEXPIREAT" none (-3) .index 1,
  COMMAND .other "PEXPIRETIME" none 2 .index 1,
  COMMAND .other "PFADD" none (-2) .index 1,
  COMMAND .other "PFCOUNT" none (-2) .index 1,
  COMMAND .other "PFDEBUG" none 3 .index 2,
  COMMAND .other "PFMERGE" none (-2) .index 1,
  COMMAND .other "PFSELFTEST" none 1 .none 0,
  COMMAND .other "PING" none (-1) .none 0,
  COMMAND .other "PSETEX" none 4 .index 1,
  COMMAND .other "PSUBSCRIBE" none (-2) .none 0,
  COMMAND .other "PSYNC" none (-3) .none 0,
  COMMAND .other "PTTL" none 2 .index 1,
  COMMAND .other "PUBLISH" none 3 .none 0,
  COMMAND .other "PUBSUB" (some "CHANNELS") (-2) .none 0,
  COMMAND .other "PUBSUB" (some "HELP") 2 .none 0,
  COMMAND .other "PUBSUB" (some "NUMPAT") 2 .none 0,
  COMMAND .other "PUBSUB" (some "NUMSUB") (-2) .none 0,
  COMMAND .other "PUBSUB" (some "SHARDCHANNELS") (-2) .none 0,
  COMMAND .other "PUBSUB" (some "SHARDNUMSUB") (-2) .none 0,
  COMMAND .other "PUNSUBSCRIBE" none (-1) .none 0,
  COMMAND .other "QUIT" none (-1) .none 0,
  COMMAND .other "RANDOMKEY" none 1 .none 0,
  COMMAND .other "READONLY" none 1 .none 0,
  COMMAND .other "READWRITE" none 1 .none 0,
  COMMAND .other "RENAME" none 3 .index 1,
  COMMAND .other "RENAMENX" none 3 .index 1,
  COMMAND .other "REPLCONF" none (-1) .none 0,
  COMMAND .other "REPLICAOF" none 3 .none 0,
  COMMAND .other "RESET" none 1 .none 0,
  COMMAND .other "RESTORE" none (-4) .index 1,
  COMMAND .other "RESTORE-ASKING" none (-4) .index 1,
  COMMAND .other "ROLE" none 1 .none 0,
  COMMAND .other "RPOP" none (-2) .index 1,
  COMMAND .other "RPOPLPUSH" none 3 .index 1,
  COMMAND .other "RPUSH" none (-3) .index 1,
  COMMAND .other "RPUSHX" none (-3) .index 1,
  COMMAND .other "SADD" none (-3) .index 1,
  COMMAND .other "SAVE" none 1 .none 0,
  COMMAND .other "SCAN" none (-2) .none 0,
  COMMAND .other "SCARD" none 2 .index 1,
  COMMAND .other "SCRIPT" (some "DEBUG") 3 .none 0,
  COMMAND .other "SCRIPT" (some "EXISTS") (-3) .none 0,
  COMMAND .other "SCRIPT" (some "FLUSH") (-2) .none 0,
  COMMAND .other "SCRIPT" (some "HELP") 2 .none 0,
  COMMAND .other "SCRIPT" (some "KILL") 2 .none 0,
  COMMAND .other "SCRIPT" (some "LOAD") 3 .none 0,
  COMMAND .other "SCRIPT" (some "SHOW") 3 .none 0,
  COMMAND .other "SDIFF" none (-2) .index 1,
  COMMAND .other "SDIFFSTORE" none (-3) .index 1,
  COMMAND .other "SELECT" none 2 .none 0,
  COMMAND .other "SENTINEL" (some "CKQUORUM") 3 .none 0,
  COMMAND .other "SENTINEL" (some "CONFIG") (-4) .none 0,
  COMMAND .other "SENTINEL" (some "DEBUG") (-2) .none 0,
  COMMAND .other "SENTINEL" (some "FAILOVER") (-3) .none 0,
  COMMAND .other "SENTINEL" (some "FLUSHCONFIG") 2 .none 0,
  COMMAND .other "SENTINEL" (some "GET-MASTER-ADDR-BY-NAME") 3 .none 0,
  COMMAND .other "SENTINEL" (some "GET-PRIMARY-ADDR-BY-NAME") 3 .none 0,
  COMMAND .other "SENTINEL" (some "HELP") 2 .none 0,
  COMMAND .other "SENTINEL" (some "INFO-CACHE") (-3) .none 0,
  COMMAND .other "SENTINEL" (some "IS-MASTER-DOWN-BY-ADDR") 6 .none 0,
  COMMAND .other "SENTINEL" (some "IS-PRIMARY-DOWN-BY-ADDR") 6 .none 0,
  COMMAND .other "SENTINEL" (some "MASTER") 3 .none 0,
  COMMAND .other "SENTINEL" (some "MASTERS") 2 .none 0,
  COMMAND .other "SENTINEL" (some "MONITOR") 6 .none 0,
  COMMAND .other "SENTINEL" (some "MYID") 2 .none 0,
  COMMAND .other "SENTINEL" (some "PENDING-SCRIPTS") 2 .none 0,
  COMMAND .other "SENTINEL" (some "PRIMARIES") 2 .none 0,
  COMMAND .other "SENTINEL" (some "PRIMARY") 3 .none 0,
  COMMAND .other "SENTINEL" (some "REMOVE") 3 .none 0,
  COMMAND .other "SENTINEL" (some "REPLICAS") 3 .none 0,
  COMMAND .other "SENTINEL" (some "RESET") 3 .none 0,
  COMMAND .other "SENTINEL" (some "SENTINELS") 3 .none 0,
  COMMAND .other "SENTINEL" (some "SET") (-5) .none 0,
  COMMAND .other "SENTINEL" (some "SIMULATE-FAILURE") (-3) .none 0,
  COMMAND .other "SENTINEL" (some "SLAVES") 3 .none 0,
  COMMAND .other "SET" none (-3) .index 1,
  COMMAND .other "SETBIT" none 4 .index 1,
  COMMAND .other "SETEX" none 4 .index 1,
  COMMAND .other "SETNX" none 3 .index 1,
  COMMAND .other "SETRANGE" none 4 .index 1,
  COMMAND .other "SHUTDOWN" none (-1) .none 0,
  COMMAND .other "SINTER" none (-2) .index 1,
  COMMAND .other "SINTERCARD" none (-3) .keynum 1,
  COMMAND .other "SINTERSTORE" none (-3) .index 1,
  COMMAND .other "SISMEMBER" none 3 .index 1,
  COMMAND .other "SLAVEOF" none 3 .none 0,
  COMMAND .other "SLOWLOG" (some "GET") (-2) .none 0,
  COMMAND .other "SLOWLOG" (some "HELP") 2 .none 0,
  COMMAND .other "SLOWLOG" (some "LEN") 2 .none 0,
  COMMAND .other "SLOWLOG" (some "RESET") 2 .none 0,
  COMMAND .other "SMEMBERS" none 2 .index 1,
  COMMAND .other "SMISMEMBER" none (-3) .index 1,
  COMMAND .other "SMOVE" none 4 .index 1,
  COMMAND .other "SORT" none (-2) .index 1,
  COMMAND .other "SORT_RO" none (-2) .index 1,
  COMMAND .other "SPOP" none (-2) .index 1,
  COMMAND .other "SPUBLISH" none 3 .index 1,
  COMMAND .other "SRANDMEMBER" none (-2) .index 1,
  COMMAND .other "SREM" none (-3) .index 1,
  COMMAND .other "SSCAN" none (-3) .index 1,
  COMMAND .other "SSUBSCRIBE" none (-2) .index 1,
  COMMAND .other "STRLEN" none 2 .index 1,
  COMMAND .other "SUBSCRIBE" none (-2) .none 0,
  COMMAND .other "SUBSTR" none 4 .index 1,
  COMMAND .other "SUNION" none (-2) .index 1,
  COMMAND .other "SUNIONSTORE" none (-3) .index 1,
  COMMAND .other "SUNSUBSCRIBE" none (-1) .index 1,
  COMMAND .other "SWAPDB" none 3 .none 0,
  COMMAND .other "SYNC" none 1 .none 0,
  COMMAND .other "TIME" none 1 .none 0,
  COMMAND .other "TOUCH" none (-2) .index 1,
  COMMAND .other "TTL" none 2 .index 1,
  COMMAND .other "TYPE" none 2 .index 1,
  COMMAND .other "UNLINK" none (-2) .index 1,
  COMMAND .other "UNSUBSCRIBE" none (-1) .none 0,
  COMMAND .other "UNWATCH" none 1 .none 0,
  COMMAND .other "WAIT" none 3 .none 0,
  COMMAND .other "WAITAOF" none 4 .none 0,
  COMMAND .other "WATCH" none (-2) .index 1,
  COMMAND .other "XACK" none (-4) .index 1,
  COMMAND .other "XADD" none (-5) .index 1,
  COMMAND .other "XAUTOCLAIM" none (-6) .index 1,
  COMMAND .other "XCLAIM" none (-6) .index 1,
  COMMAND .other "XDEL" none (-3) .index 1,
  COMMAND .other "XGROUP" (some "CREATE") (-5) .index 2,
  COMMAND .other "XGROUP" (some "CREATECONSUMER") 5 .index 2,
  COMMAND .other "XGROUP" (some "DELCONSUMER") 5 .index 2,
  COMMAND .other "XGROUP" (some "DESTROY") 4 .index 2,
  COMMAND .other "XGROUP" (some "HELP") 2 .none 0,
  COMMAND .other "XGROUP" (some "SETID") (-5) .index 2,
  COMMAND .other "XINFO" (some "CONSUMERS") 4 .index 2,
  COMMAND .other "XINFO" (some "GROUPS") 3 .index 2,
  COMMAND .other "XINFO" (some "HELP") 2 .none 0,
  COMMAND .other "XINFO" (some "STREAM") (-3) .index 2,
  COMMAND .other "XLEN" none 2 .index 1,
  COMMAND .other "XPENDING" none (-3) .index 1,
  COMMAND .other "XRANGE" none (-4) .index 1,
  COMMAND .xread "XREAD" none (-4) .unknown 0,
  COMMAND .xreadgroup "XREADGROUP" none (-7) .unknown 0,
  COMMAND .other "XREVRANGE" none (-4) .index 1,
  COMMAND .other "XSETID" none (-3) .index 1,
  COMMAND .other "XTRIM" none (-4) .index 1,
  COMMAND .other "ZADD" none (-4) .index 1,
  COMMAND .other "ZCARD" none 2 .index 1,
  COMMAND .other "ZCOUNT" none 4 .index 1,
  COMMAND .other "ZDIFF" none (-3) .keynum 1,
  COMMAND .other "ZDIFFSTORE" none (-4) .index 1,
  COMMAND .other "ZINCRBY" none 4 .index 1,
  COMMAND .other "ZINTER" none (-3) .keynum 1,
  COMMAND .other "ZINTERCARD" none (-3) .keynum 1,
  COMMAND .other "ZINTERSTORE" none (-4) .index 1,
  COMMAND .other "ZLEXCOUNT" none 4 .index 1,
  COMMAND .other "ZMPOP" none (-4) .keynum 1,
  COMMAND .other "ZMSCORE" none (-3) .index 1,
  COMMAND .other "ZPOPMAX" none (-2) .index 1,
  COMMAND .other "ZPOPMIN" none (-2) .index 1,
  COMMAND .other "ZRANDMEMBER" none (-2) .index 1,
  COMMAND .other "ZRANGE" none (-4) .index 1,
  COMMAND .other "ZRANGEBYLEX" none (-4) .index 1,
  COMMAND .other "ZRANGEBYSCORE" none (-4) .index 1,
  COMMAND .other "ZRANGESTORE" none (-5) .index 1,
  COMMAND .other "ZRANK" none (-3) .index 1,
  COMMAND .other "ZREM" none (-3) .index 1,
  COMMAND .other "ZREMRANGEBYLEX" none 4 .index 1,
  COMMAND .other "ZREMRANGEBYRANK" none 4 .index 1,
  COMMAND .other "ZREMRANGEBYSCORE" none 4 .index 1,
  COMMAND .other "ZREVRANGE" none (-4) .index 1,
  COMMAND .other "ZREVRANGEBYLEX" none (-4) .index 1,
  COMMAND .other "ZREVRANGEBYSCORE" none (-4) .index 1,
  COMMAND .other "ZREVRANK" none (-3) .index 1,
  COMMAND .other "ZSCAN" none (-3) .index 1,
  COMMAND .other "ZSCORE" none 3 .index 1,
  COMMAND .other "ZUNION" none (-3) .keynum 1,
  COMMAND .other "ZUNIONSTORE" none (-4) .index 1]

end Libvalkey
