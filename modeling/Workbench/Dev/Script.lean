import Workbench.Http.Message

set_option autoImplicit false

namespace Workbench.Script

def channelPath : String := "/ws/live-reload"

def lines : List String := [
  "(function () \x7b",
  "  \"use strict\";",
  "",
  "  var RETRY_MS = 1000;",
  "",
  "  function refreshStylesheets() \x7b",
  "    var links = document.querySelectorAll('link[rel=\"stylesheet\"]');",
  "    var stamp = Date.now();",
  "    for (var i = 0; i < links.length; i++) \x7b",
  "      var href = links[i].getAttribute(\"href\");",
  "      if (!href) \x7b",
  "        continue;",
  "      \x7d",
  "      var bare = href.replace(/([?&])_nd=\\d+&?/, \"$1\").replace(/[?&]$/, \"\");",
  "      links[i].setAttribute(",
  "        \"href\",",
  "        bare + (bare.indexOf(\"?\") === -1 ? \"?\" : \"&\") + \"_nd=\" + stamp",
  "      );",
  "    \x7d",
  "  \x7d",
  "",
  "  function connect() \x7b",
  "    var scheme = location.protocol === \"https:\" ? \"wss://\" : \"ws://\";",
  "    var socket = new WebSocket(scheme + location.host + \"/ws/live-reload\");",
  "",
  "    socket.onmessage = function (message) \x7b",
  "      var event;",
  "      try \x7b",
  "        event = JSON.parse(message.data);",
  "      \x7d catch (e) \x7b",
  "        return;",
  "      \x7d",
  "      if (event.type === \"css\") \x7b",
  "        refreshStylesheets();",
  "      \x7d else \x7b",
  "        location.reload();",
  "      \x7d",
  "    \x7d;",
  "",
  "    socket.onclose = function () \x7b",
  "      setTimeout(connect, RETRY_MS);",
  "    \x7d;",
  "  \x7d",
  "",
  "  connect();",
  "\x7d)();"]

def text : String :=
  String.join (lines.map (· ++ "\n"))

def response : Http.Response where
  status := 200
  headers := [.ofText Http.contentType "text/javascript; charset=utf-8"]
  body := text.toUTF8

end Workbench.Script
